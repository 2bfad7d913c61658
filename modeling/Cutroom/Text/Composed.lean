import Cutroom.Text.CombiningTable
import Cutroom.Text.CompositionTable

/-! The composed form of a text: each character is taken apart as far as it goes, the marks behind a letter are
    put into the order of their classes, and what composes is composed again. Two texts with the same letters and
    marks have one composed form. Characters that come apart but are never composed are not provided for. -/

namespace Cutroom.Text

/-! ### Syllables of Hangul -/

namespace Hangul

def leads : Nat := 19

def vowels : Nat := 21

/-- The tails, the missing one counted. --/
def tails : Nat := 28

def firstLead : Nat := 0x1100

def firstVowel : Nat := 0x1161

/-- The place before the first tail, which stands for the missing one. --/
def noTail : Nat := 0x11A7

def firstSyllable : Nat := 0xAC00

/-- The letters of a syllable. --/
def letters? (n : Nat) : Option (List Char) :=
  if firstSyllable ≤ n ∧ n < firstSyllable + leads * vowels * tails then
    let k := n - firstSyllable
    let tail := k % tails
    some ([firstLead + k / (vowels * tails), firstVowel + k / tails % vowels].map Char.ofNat ++
      if tail = 0 then [] else [Char.ofNat (noTail + tail)])
  else none

/-- The syllable of a lead and a vowel, or of a syllable without a tail and a tail. --/
def compose? (n m : Nat) : Option Char :=
  if firstLead ≤ n ∧ n < firstLead + leads ∧ firstVowel ≤ m ∧ m < firstVowel + vowels then
    some (Char.ofNat (firstSyllable + ((n - firstLead) * vowels + (m - firstVowel)) * tails))
  else if firstSyllable ≤ n ∧ n < firstSyllable + leads * vowels * tails ∧ (n - firstSyllable) % tails = 0 ∧
      noTail < m ∧ m < noTail + tails then
    some (Char.ofNat (n + (m - noTail)))
  else none

end Hangul

/-! ### Taking apart -/

/-- The class of a mark, zero for a character that starts anew. --/
def combiningClass (c : Char) : Nat := (combiningTable.find? c).getD 0

/-- The characters that a character is composed of, taken apart `fuel` times at most. --/
def takenApart : Nat → Char → List Char
  | 0, c => [c]
  | fuel + 1, c =>
    match Hangul.letters? c.toNat with
    | some letters => letters
    | none =>
      match compositionTable.find? c with
      | some parts => parts.flatMap (takenApart fuel)
      | none => [c]

/-- No character is composed more often than this. --/
def depth : Nat := 4

/-- Puts a character behind others, last first. A mark moves in front of those of a higher class. --/
def pushOrdered (done : List Char) (c : Char) : List Char :=
  match done with
  | [] => [c]
  | d :: rest =>
    if combiningClass c ≠ 0 ∧ combiningClass c < combiningClass d then d :: pushOrdered rest c else c :: done

/-- A text taken apart, with its marks in order. --/
def decomposed (cs : List Char) : List Char := ((cs.flatMap (takenApart depth)).foldl pushOrdered []).reverse

/-! ### Composing -/

/-- The character that two others compose. --/
def compose? (c d : Char) : Option Char :=
  match Hangul.compose? c.toNat d.toNat with
  | some syllable => some syllable
  | none => (compositionTable.rows.find? fun r => r.value == [c, d]).map fun r => Char.ofNat r.first

/-- A text that is being composed: what is finished, last first, the last character that starts anew, and the
    marks behind it that do not compose with it, last first. --/
structure Composing where
  done : List Char
  start? : Option Char
  marks : List Char

namespace Composing

/-- All of the text, last character first. --/
def all (p : Composing) : List Char := p.marks ++ p.start?.toList ++ p.done

/-- Nothing stands between a character and the one that it may compose with. --/
def isFree (p : Composing) (c : Char) : Bool :=
  match p.marks with
  | [] => true
  | m :: _ => combiningClass m < combiningClass c

def push (p : Composing) (c : Char) : Composing :=
  match if p.isFree c then p.start?.bind fun s => compose? s c else none with
  | some d => { p with start? := some d }
  | none => if combiningClass c = 0 then ⟨p.all, some c, []⟩ else { p with marks := c :: p.marks }

end Composing

/-- The composed form of a text. --/
def composed (cs : List Char) : List Char := ((decomposed cs).foldl Composing.push ⟨[], none, []⟩).all.reverse

end Cutroom.Text
