import Cutroom.Text.CaseTable

/-! White space and letter case. White space is the twenty-five characters that Unicode gives that property. Letter case
    is either that of the twenty-six letters of ASCII, where every other character is left as it is, or that of all
    letters: then each character has its own lower-case form, with two exceptions: the capital I with a dot becomes two
    characters, and a capital sigma at the end of a word becomes a final one. -/

namespace Cutroom.Text

/-! ### White space -/

/-- The ranges of characters that Unicode calls white space. --/
def blankRanges : List (Nat × Nat) :=
  [(0x9, 0xD), (0x20, 0x20), (0x85, 0x85), (0xA0, 0xA0), (0x1680, 0x1680), (0x2000, 0x200A),
    (0x2028, 0x2029), (0x202F, 0x202F), (0x205F, 0x205F), (0x3000, 0x3000)]

def isBlank (c : Char) : Bool := blankRanges.any fun r => r.1 ≤ c.toNat && c.toNat ≤ r.2

/-- The characters between the first and the last that is not white space. --/
def trimmed (cs : List Char) : List Char :=
  ((cs.dropWhile isBlank).reverse.dropWhile isBlank).reverse

/-- A text without the white space at its ends. --/
def trim (s : String) : String := String.ofList (trimmed s.toList)

/-! ### The letters of ASCII -/

def upper (s : String) : String := String.ofList (s.toList.map Char.toUpper)

def lower (s : String) : String := String.ofList (s.toList.map Char.toLower)

/-- Two texts are equal but for the case of ASCII letters. --/
def sameLetters (s t : String) : Bool := s.toList.map Char.toLower == t.toList.map Char.toLower

/-! ### All letters -/

/-- The lower-case form of a character, where it is a single character. --/
def lowerChar (c : Char) : Char := ((lowerTable.row? c.toNat).bind fun r => Shift.image? r c.toNat).getD c

/-- Past the characters that words pass over, the next one has a case. --/
def casedAhead (cs : List Char) : Bool :=
  match cs.dropWhile passedTable.holds with
  | [] => false
  | c :: _ => casedTable.holds c

/-- The lower-case form of `c`, `before` being the characters in front of it, nearest first, and `after`
    those behind it. --/
def lowerAt (before : List Char) (c : Char) (after : List Char) : List Char :=
  if c = 'Σ' then [if casedAhead before && !casedAhead after then 'ς' else 'σ']
  else if c = 'İ' then ['i', Char.ofNat 0x307]
  else [lowerChar c]

def lowercaseFrom (before : List Char) : List Char → List Char
  | [] => []
  | c :: after => lowerAt before c after ++ lowercaseFrom (c :: before) after

def lowercase (s : String) : String := String.ofList (lowercaseFrom [] s.toList)

end Cutroom.Text
