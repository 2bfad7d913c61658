import Cutroom.Text.Digits
import Cutroom.Text.HiddenTable

/-! Paths of files, as they are written. A path is taken apart by its slashes; slashes in a row count as
    one, and a part that is a single dot says nothing, except at the start. In messages a path stands between double
    quotes: a quote, a backslash and the characters that do not show by themselves are escaped. -/

namespace Cutroom

structure FilePath where
  text : String
deriving DecidableEq

namespace FilePath

def isAbsolute (p : FilePath) : Bool := p.text.toList.head? == some '/'

/-- A path behind a directory; an absolute path stays as it is. --/
def join (dir p : FilePath) : FilePath :=
  if p.isAbsolute then p
  else if dir.text.isEmpty || dir.text.toList.getLast? == some '/' then ⟨dir.text ++ p.text⟩
  else ⟨dir.text ++ "/" ++ p.text⟩

def child (dir : FilePath) (name : String) : FilePath := dir.join ⟨name⟩

/-- A path without the slashes and single dots at its end, written backwards. --/
def bare : List Char → List Char
  | '/' :: rest => if rest.isEmpty then ['/'] else bare rest
  | '.' :: '/' :: rest => if rest.isEmpty then ['/'] else bare rest
  | cs => cs

def backwards (p : FilePath) : List Char := bare p.text.toList.reverse

/-- The path of the directory that holds the last part; the root and the empty path have none. --/
def parent? (p : FilePath) : Option FilePath :=
  match p.backwards with
  | [] | ['/'] => none
  | cs => some ⟨String.ofList (bare (cs.dropWhile (· != '/'))).reverse⟩

/-- The last part, unless it is a dot or two. --/
def fileName? (p : FilePath) : Option String :=
  match (p.backwards.takeWhile (· != '/')).reverse with
  | [] | ['.'] | ['.', '.'] => none
  | cs => some (String.ofList cs)

/-- The parts between the slashes. --/
def parts (p : FilePath) : List String :=
  ((p.text.toList.splitOn '/').filter fun part => !part.isEmpty).map String.ofList

/-- The path ends with a slash, and so can only be that of a directory. --/
def endsInSlash (p : FilePath) : Bool := p.text.toList.getLast? == some '/'

end FilePath

namespace Text

/-- How a character is written between the quotes. --/
def quotedChar (c : Char) : List Char :=
  if c = '\x22' then ['\x5c', '\x22']
  else if c = '\x5c' then ['\x5c', '\x5c']
  else if c = '\n' then ['\x5c', 'n']
  else if c = '\r' then ['\x5c', 'r']
  else if c = '\t' then ['\x5c', 't']
  else if c.toNat = 0 then ['\x5c', '0']
  else if hiddenTable.holds c then ['\x5c', 'u', '\x7b'] ++ Hex.numeral c.toNat ++ ['\x7d']
  else [c]

def quoted (s : String) : String :=
  String.ofList ('\x22' :: s.toList.flatMap quotedChar ++ ['\x22'])

end Text
end Cutroom
