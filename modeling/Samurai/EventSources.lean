import Mathlib.Tactic

/-!
# Events and their sources

Some entries of a log need a source: an earlier entry which feeds them.  The
log has sources of its own for them if no source is used twice.
-/

variable {α : Type*}

def OwnSources (needs : α → Prop) (feeds : α → α → Prop) (log : List α) :
    Prop :=
  ∃ source : ℕ → ℕ,
    (∀ i a, log[i]? = some a → needs a →
      source i < i ∧ ∃ b, log[source i]? = some b ∧ feeds b a) ∧
    ∀ i j a b, log[i]? = some a → needs a → log[j]? = some b → needs b →
      source i = source j → i = j

namespace OwnSources

variable {needs : α → Prop} {feeds : α → α → Prop} {log : List α} {a b : α}

theorem nil : OwnSources needs feeds [] :=
  ⟨id, by simp, by simp⟩

theorem getElem?_concat {i : ℕ} (h : (log ++ [a])[i]? = some b) :
    log[i]? = some b ∨ (i = log.length ∧ b = a) := by
  rcases lt_or_ge i log.length with hlt | hge
  · left
    rwa [List.getElem?_append_left hlt] at h
  · right
    rw [List.getElem?_append_right hge] at h
    rcases List.getElem?_eq_some_iff.mp h with ⟨hindex, hvalue⟩
    simp only [List.length_singleton] at hindex
    have hi : i = log.length := by omega
    subst hi
    simpa [eq_comm] using hvalue

theorem concat (hlog : OwnSources needs feeds log) (ha : ¬ needs a) :
    OwnSources needs feeds (log ++ [a]) := by
  rcases hlog with ⟨source, hsource, hown⟩
  have hold : ∀ (i : ℕ) (b : α), (log ++ [a])[i]? = some b → needs b →
      log[i]? = some b := by
    intro i b hi hb
    rcases getElem?_concat hi with hi | ⟨_, rfl⟩
    · exact hi
    · exact absurd hb ha
  refine ⟨source, ?_, ?_⟩
  · intro i b hi hb
    rcases hsource i b (hold i b hi hb) hb with ⟨hlt, c, hc, hfeeds⟩
    have hlength := (List.getElem?_eq_some_iff.mp hc).1
    refine ⟨hlt, c, ?_, hfeeds⟩
    rw [List.getElem?_append_left hlength, hc]
  · intro i j b c hi hb hj hc
    exact hown i j b c (hold i b hi hb) hb (hold j c hj hc) hc

/-- An entry is fed by the one just before it. -/
theorem concat_fed (hlog : OwnSources needs feeds log) (hb : ¬ needs b)
    (hfeeds : feeds b a) : OwnSources needs feeds (log ++ [b, a]) := by
  have hsplit : log ++ [b, a] = (log ++ [b]) ++ [a] := by simp
  rcases hlog.concat hb with ⟨source, hsource, hown⟩
  have hlast : (log ++ [b])[log.length]? = some b := by simp
  have hunused : ∀ (i : ℕ) (c : α), (log ++ [b])[i]? = some c → needs c →
      source i ≠ log.length := by
    intro i c hi hc heq
    have hlt := (hsource i c hi hc).1
    have hlength := (List.getElem?_eq_some_iff.mp hi).1
    simp only [List.length_append, List.length_singleton] at hlength
    omega
  rw [hsplit]
  refine ⟨Function.update source (log ++ [b]).length log.length, ?_, ?_⟩
  · intro i c hi hc
    rcases getElem?_concat hi with hi | ⟨rfl, rfl⟩
    · have hlength := (List.getElem?_eq_some_iff.mp hi).1
      rw [Function.update_of_ne (Nat.ne_of_lt hlength)]
      rcases hsource i c hi hc with ⟨hlt, d, hd, hfeedsd⟩
      refine ⟨hlt, d, ?_, hfeedsd⟩
      rw [List.getElem?_append_left (by omega), hd]
    · rw [Function.update_self]
      refine ⟨by simp, b, ?_, hfeeds⟩
      rw [List.getElem?_append_left (by simp), hlast]
  · intro i j c d hi hc hj hd
    rcases getElem?_concat hi with hiold | ⟨rfl, rfl⟩
    · have hlengthi := (List.getElem?_eq_some_iff.mp hiold).1
      rw [Function.update_of_ne (Nat.ne_of_lt hlengthi)]
      rcases getElem?_concat hj with hjold | ⟨rfl, rfl⟩
      · have hlengthj := (List.getElem?_eq_some_iff.mp hjold).1
        rw [Function.update_of_ne (Nat.ne_of_lt hlengthj)]
        exact hown i j c d hiold hc hjold hd
      · rw [Function.update_self]
        intro heq
        exact absurd heq (hunused i c hiold hc)
    · rw [Function.update_self]
      rcases getElem?_concat hj with hjold | ⟨rfl, rfl⟩
      · have hlengthj := (List.getElem?_eq_some_iff.mp hjold).1
        rw [Function.update_of_ne (Nat.ne_of_lt hlengthj)]
        intro heq
        exact absurd heq.symm (hunused j d hjold hd)
      · intro _
        rfl

/-- The first entry of a log has nothing before it. -/
theorem head (hlog : OwnSources needs feeds (a :: log)) : ¬ needs a := by
  intro ha
  rcases hlog with ⟨source, hsource, _⟩
  have hlt := (hsource 0 a rfl ha).1
  omega

end OwnSources
