import Cutroom.Text.Digits

/-! Tables of characters. The rows of a table are ranges of code points, ascending and apart, each with a value;
    a character is looked up by halving.

    A table is written in words. The word of a row is its first and its last code point with a hyphen between
    them, or its only code point, and behind an equals sign its value. Code points are written in hexadecimal
    digits. -/

namespace Cutroom.Text

/-- The code points from `first` to `last`, and what is said about them. --/
structure Row (α : Type) where
  first : Nat
  last : Nat
  value : α

structure Table (α : Type) where
  rows : Array (Row α)

/-- A table that says nothing but which characters it holds. --/
abbrev CharSet := Table Unit

namespace Table

variable {α : Type}

/-! ### Looking up -/

/-- The index of the last row from `low` on and below `high` that starts at `n` or before it, `low` if there
    is none. --/
def lastStart (t : Table α) (n low high : Nat) : Nat :=
  if high ≤ low + 1 then low
  else
    let middle := low + (high - low) / 2
    if (t.rows[middle]?.map Row.first).getD 0 ≤ n then t.lastStart n middle high else t.lastStart n low middle
termination_by high - low

/-- The row that a code point lies in. --/
def row? (t : Table α) (n : Nat) : Option (Row α) :=
  t.rows[t.lastStart n 0 t.rows.size]?.filter fun r => r.first ≤ n && n ≤ r.last

def find? (t : Table α) (c : Char) : Option α := (t.row? c.toNat).map Row.value

def holds (t : Table α) (c : Char) : Bool := (t.row? c.toNat).isSome

/-! ### Reading -/

/-- The words of a text, last first, `word` being the one that is being read, its last character first. --/
def wordsFrom (words : List (List Char)) (word : List Char) : List Char → List (List Char)
  | [] => if word.isEmpty then words else word.reverse :: words
  | c :: cs =>
    if c = ' ' ∨ c = '\n' then wordsFrom (if word.isEmpty then words else word.reverse :: words) [] cs
    else wordsFrom words (c :: word) cs

/-- The row of a word, `value` reading what stands behind the equals sign. --/
def rowOf? (value : List Char → Option α) (word : List Char) : Option (Row α) := do
  let (range, rest) := word.span (· != '=')
  let (first, last) := range.span (· != '-')
  let n ← Hex.value? first
  let m ← if last.isEmpty then some n else Hex.value? (last.drop 1)
  some ⟨n, m, ← value (rest.drop 1)⟩

/-- The table that is written in a text. --/
def ofText (value : List Char → Option α) (text : String) : Table α :=
  ⟨((wordsFrom [] [] text.toList).filterMap (rowOf? value)).reverse.toArray⟩

/-- The characters whose code points are written in a word, with plus signs between them. --/
def spelling? (word : List Char) : Option (List Char) :=
  if word.isEmpty then some [] else (word.splitOn '+').mapM fun digits => (Hex.value? digits).map Char.ofNat

end Table

/-- The set of the ranges that are written in a text. --/
def CharSet.ofText (text : String) : CharSet := Table.ofText (fun _ => some ()) text

/-- Takes the characters of a row to as many characters from `target` on, or every second one where the stride
    is two. --/
structure Shift where
  target : Nat
  stride : Nat

namespace Shift

/-- The word of a shift is its target, followed by a slash and a two where that is the stride. --/
def ofWord? (word : List Char) : Option Shift := do
  let (target, stride) := word.span (· != '/')
  some ⟨← Hex.value? target, if stride.isEmpty then 1 else 2⟩

/-- Where a row takes a code point, none for one that is left out. --/
def image? (r : Row Shift) (n : Nat) : Option Char :=
  if (n - r.first) % r.value.stride = 0 then some (Char.ofNat (r.value.target + (n - r.first))) else none

end Shift

end Cutroom.Text
