import Samurai.SeparatedLists
import Samurai.StableSorting

/-!
# The blob list script

`reorder-libs.py` sorts every section of `proprietary-files.txt`.  Strings are
lists of characters here, and the sort is a parameter: any stable sort driven
by the comparator.
-/

namespace Samurai.ReorderLibs

/-! ## Strings of the language -/

/-- `strcoll` in the C locale. -/
def strcoll (string1 string2 : List Char) : ℤ :=
  if string1 < string2 then -1 else if string1 = string2 then 0 else 1

def startswith (string start : List Char) : Bool :=
  start.isPrefixOf string

def removePrefix (start string : List Char) : List Char :=
  if startswith string start then string.drop start.length else string

/-- `rsplit(sep, 1)`. -/
def rsplit (sep : Char) (string : List Char) : List (List Char) :=
  if sep ∈ string then
    let tail := string.reverse.takeWhile (· ≠ sep)
    [(string.reverse.drop (tail.length + 1)).reverse, tail.reverse]
  else [string]

/-- Where `splitlines` breaks a line. -/
def isLineBreak (c : Char) : Bool :=
  c ∈ ['\n', '\r', '\x0b', '\x0c', '\x1c', '\x1d', '\x1e', '\u0085',
    '\u2028', '\u2029']

/-- `str.isspace` of one character. -/
def isspace (c : Char) : Bool :=
  isLineBreak c || c ∈ ['\t', '\x1f', ' ', '\u00a0', '\u1680', '\u202f',
    '\u205f', '\u3000'] || ('\u2000' ≤ c && c ≤ '\u200a')

def strip (string : List Char) : List Char :=
  trim isspace string

def splitlines : List Char → List (List Char)
  | [] => []
  | '\r' :: '\n' :: rest => [] :: splitlines rest
  | c :: rest =>
      if isLineBreak c then [] :: splitlines rest
      else prependFirst c (splitlines rest)

/-- `split("\n\n")`. -/
def splitBlank : List Char → List (List Char)
  | [] => [[]]
  | '\n' :: '\n' :: rest => [] :: splitBlank rest
  | c :: rest => prependFirst c (splitBlank rest)

/-- What reading in text mode makes of line ends. -/
def universalNewlines : List Char → List Char
  | [] => []
  | '\r' :: '\n' :: rest => '\n' :: universalNewlines rest
  | '\r' :: rest => '\n' :: universalNewlines rest
  | c :: rest => c :: universalNewlines rest

/-! ## The script -/

def directory (string : List Char) : List Char :=
  (rsplit '/' string).headD [] ++ ['/']

def strcoll_extract_utils (string1 string2 : List Char) : ℤ :=
  if string1 = [] ∨ string2 = [] then strcoll string1 string2
  else
    let string1 := removePrefix ['-'] string1
    let string2 := removePrefix ['-'] string2
    if '/' ∉ string1 ∧ '/' ∉ string2 then strcoll string1 string2
    else
      let string1_dir := directory string1
      let string2_dir := directory string2
      if string1_dir = string2_dir then strcoll string1 string2
      else if startswith string1_dir string2_dir then -1
      else if startswith string2_dir string1_dir then 1
      else strcoll string1 string2

/-- `section_list` before it is sorted. -/
def section_list (text : List Char) : List (List Char) :=
  (splitlines text).map strip

def ordered_sections (σ : StableSort strcoll_extract_utils)
    (sections : List (List Char)) : List (List Char) :=
  sections.map fun text => ['\n'].intercalate (σ.sort (section_list text))

/-- The text written for a text read. -/
def reorder (σ : StableSort strcoll_extract_utils) (text : List Char) :
    List Char :=
  strip (['\n', '\n'].intercalate (ordered_sections σ (splitBlank text))) ++
    ['\n']

/-- The content of the file after a run of the script, if there is one. -/
def run (σ : StableSort strcoll_extract_utils) (file : Option (List Char)) :
    Option (List Char) :=
  file.map fun content => reorder σ (universalNewlines content)

end Samurai.ReorderLibs
