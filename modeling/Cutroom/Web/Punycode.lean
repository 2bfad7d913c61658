/-! Characters that are not ASCII, written with letters and digits. The ASCII characters of a text come first, up to
    the last hyphen. Behind it stand numbers, one for each other character, which are inserted by ascending code
    point: a number says how many pairs of a code point and a place are passed over since the last insertion. It is
    written with its least digit first, and its last digit is the first one below a threshold, which adapts to the
    numbers before. -/

namespace Cutroom.Punycode

def base : Nat := 36

/-- The code point and the bias to start from. --/
def firstPoint : Nat := 128

def firstBias : Nat := 72

/-- The threshold of a digit by its place, which is counted in steps of `base`. --/
def threshold (bias place : Nat) : Nat :=
  if place ≤ bias then 1 else if bias + 26 ≤ place then 26 else place - bias

theorem threshold_pos (bias place : Nat) : 0 < threshold bias place := by
  unfold threshold
  split
  · omega
  · split <;> omega

/-- Divides a number until it is small, and counts the divisions in steps of `base`. --/
def shrink (n steps : Nat) : Nat × Nat := if 455 < n then shrink (n / 35) (steps + base) else (n, steps)
termination_by n
decreasing_by omega

/-- The bias behind a number, with `size` characters in the text by then. --/
def adapted (n size : Nat) (isFirst : Bool) : Nat :=
  let n := if isFirst then n / 700 else n / 2
  let (n, steps) := shrink (n + n / size) 0
  steps + base * n / (n + 38)

def isAscii (c : Char) : Bool := c.toNat < firstPoint

/-! ### Writing -/

/-- The digit of a number below `base`: letters, then figures. --/
def digit (n : Nat) : Char := if n < 26 then Char.ofNat (97 + n) else Char.ofNat (22 + n)

/-- The digits of a number from a place on. --/
def digits (bias n place : Nat) : List Char :=
  let t := threshold bias place
  if n < t then [digit n] else digit (t + (n - t) % (base - t)) :: digits bias ((n - t) / (base - t)) (place + base)
termination_by n
decreasing_by
  have := threshold_pos bias place
  have := Nat.div_le_self (n - threshold bias place) (base - threshold bias place)
  omega

/-- A text of which some characters are written: how many, how many pairs have been passed over since the last one,
    the bias for the next number, and the digits, last number first. --/
structure Writing where
  size : Nat
  passed : Nat
  bias : Nat
  numbers : List (List Char)

namespace Writing

/-- Passes a character of the text, which is written if it has the code point at hand. --/
def pass (point : Nat) (w : Writing) (c : Char) : Writing :=
  if c.toNat < point then { w with passed := w.passed + 1 }
  else if c.toNat = point then
    ⟨w.size + 1, 0, adapted w.passed (w.size + 1) w.numbers.isEmpty, digits w.bias w.passed base :: w.numbers⟩
  else w

/-- Writes all characters of each code point, the code points ascending from `point` on. --/
def passAll (cs : List Char) (point : Nat) (w : Writing) : List Nat → Writing
  | [] => w
  | next :: rest =>
    let w := cs.foldl (pass next) { w with passed := w.passed + (next - point) * (w.size + 1) }
    passAll cs (next + 1) { w with passed := w.passed + 1 } rest

end Writing

def encode (cs : List Char) : List Char :=
  let ascii := cs.filter isAscii
  let points := (((cs.filter fun c => !isAscii c).map Char.toNat).mergeSort).eraseDups
  let w := Writing.passAll cs firstPoint ⟨ascii.length, 0, firstBias, []⟩ points
  ascii ++ (if ascii.isEmpty then [] else ['-']) ++ w.numbers.reverse.flatten

/-! ### Reading -/

def value? (c : Char) : Option Nat :=
  if c.isLower then some (c.toNat - 97)
  else if c.isUpper then some (c.toNat - 65)
  else if c.isDigit then some (c.toNat - 22)
  else none

/-- A text into which some characters are inserted: the last code point, the place behind its character, the bias,
    and of the number that is being read the sum of the digits, the weight of the next one and its place. --/
structure Reading where
  text : List Char
  point : Nat
  index : Nat
  bias : Nat
  sum : Nat
  weight : Nat
  place : Nat

namespace Reading

/-- Inserts a character by its number. --/
def insert? (r : Reading) (n : Nat) : Option Reading :=
  let size := r.text.length + 1
  let point := r.point + (r.index + n) / size
  let index := (r.index + n) % size
  if point.isValidChar then
    some ⟨r.text.insertIdx index (Char.ofNat point), point, index + 1, adapted n size (r.index = 0), 0, 1, base⟩
  else none

def push? (r : Reading) (c : Char) : Option Reading := do
  let d ← value? c
  let t := threshold r.bias r.place
  let sum := r.sum + d * r.weight
  if d < t then r.insert? sum
  else some { r with sum := sum, weight := r.weight * (base - t), place := r.place + base }

end Reading

/-- The part before the last hyphen and the one behind it; a hyphen at the start counts for a digit. --/
def parts (cs : List Char) : List Char × List Char :=
  match cs.reverse.span (· != '-') with
  | (numbers, _ :: c :: ascii) => ((c :: ascii).reverse, numbers.reverse)
  | _ => ([], cs)

/-- The text that is written, none where a character is not ASCII, or a number is no number or leads to no
    character. --/
def decode? (cs : List Char) : Option (List Char) := do
  let (ascii, numbers) := parts cs
  if !ascii.all isAscii then none
  let r ← numbers.foldlM Reading.push? ⟨ascii, firstPoint, 0, firstBias, 0, 1, base⟩
  if r.place = base then some r.text else none

end Cutroom.Punycode
