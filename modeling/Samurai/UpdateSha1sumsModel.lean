import Samurai.CarriedState
import Samurai.ReorderLibsModel

/-!
# The blob hash script

`update-sha1sums.py` pins the blobs of `proprietary-files.txt` by their hashes,
or drops the hashes again with `-c`.  The directories and files below the
vendor path are a snapshot, and the hash is a parameter.
-/

namespace Samurai.UpdateSha1sums

open ReorderLibs (startswith universalNewlines)

/-! ## Strings and paths of the language -/

/-- `rstrip('\n')`. -/
def rstrip (string : List Char) : List Char :=
  string.rdropWhile (· = '\n')

/-- `split(sep)` for one character. -/
def split (sep : Char) (string : List Char) : List (List Char) :=
  string.splitOn sep

/-- `os.path.join`. -/
def join (path name : List Char) : List Char :=
  if startswith name ['/'] then name
  else if path = [] ∨ path.getLast? = some '/' then path ++ name
  else path ++ '/' :: name

/-- What iterating over a file in text mode gives. -/
def readLines : List Char → List (List Char)
  | [] => []
  | '\n' :: rest => ['\n'] :: readLines rest
  | c :: rest =>
      match readLines rest with
      | [] => [[c]]
      | line :: lines => (c :: line) :: lines

/-- What `os.path.exists` and reading a file give; there is no content where
reading raises. -/
structure FileSystem where
  pathExists : List Char → Bool
  read : List Char → Option (List UInt8)

/-! ## The script -/

def device : List Char :=
  "samurai".toList

def vendor : List Char :=
  "realme".toList

def vendorPath : List Char :=
  "../../../vendor/".toList ++ vendor ++ '/' :: device ++
    "/proprietary".toList

def cleanupLine (line : List Char) : List Char :=
  let text := rstrip line
  if text = [] ∨ startswith text ['#'] then line
  else if '|' ∈ text then (split '|' text).headD [] ++ ['\n']
  else line

def cleanup (lines : List (List Char)) : List (List Char) :=
  lines.map cleanupLine

def filePath (line : List Char) : List Char :=
  let filePath := if ':' ∈ line then ((split ':' line)[1]?).getD [] else line
  let filePath := (split ';' filePath).headD []
  if startswith filePath ['-'] then filePath.drop 1 else filePath

/-- One round of the loop of `update`: the line it leaves and `needSHA1` after
it. -/
def updateLine (fs : FileSystem) (sha1 : List UInt8 → List Char)
    (needSHA1 : Bool) (line : List Char) : List Char × Bool :=
  let text := rstrip line
  if text = [] then (line, needSHA1)
  else if startswith text ['#'] then (line, " - from".toList <:+: text)
  else if needSHA1 then
    let text := (split '|' text).headD []
    let fullPath := join vendorPath (filePath text)
    if fs.pathExists fullPath then
      match fs.read fullPath with
      | some file => (text ++ '|' :: sha1 file ++ ['\n'], needSHA1)
      | none => (line, needSHA1)
    else (line, needSHA1)
  else (line, needSHA1)

def update (fs : FileSystem) (sha1 : List UInt8 → List Char)
    (lines : List (List Char)) : List (List Char) :=
  CarriedState.rewrite (updateLine fs sha1) false lines

/-- The content of `proprietary-files.txt` after a run of the script. -/
def run (fs : FileSystem) (sha1 : List UInt8 → List Char)
    (argv : List (List Char)) (content : List Char) : List Char :=
  let lines := readLines (universalNewlines content)
  if argv.length = 2 ∧ argv[1]? = some "-c".toList then (cleanup lines).flatten
  else (update fs sha1 lines).flatten

end Samurai.UpdateSha1sums
