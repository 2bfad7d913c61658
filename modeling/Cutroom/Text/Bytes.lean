/-! Texts as bytes, which may be damaged: bytes in UTF-8, and bytes that start with a mark of their encoding: the mark of
    UTF-8, or one of the two marks that give the order of the bytes in 16-bit units. Bytes without a mark are UTF-8. -/

namespace Cutroom.Text

/-! ### UTF-8 -/

/-- A character of which some bytes have been read: the bits so far, the range that the next byte must
    lie in, and how many more bytes follow that one. --/
structure Partial8 where
  bits : Nat
  low : Nat
  high : Nat
  more : Nat

/-- What a byte at the start of a character opens: a whole character, a longer one, or nothing. --/
def lead (b : Nat) : Option Char ⊕ Partial8 :=
  if b < 0x80 then .inl (some (Char.ofNat b))
  else if b < 0xC2 then .inl none
  else if b < 0xE0 then .inr ⟨b - 0xC0, 0x80, 0xBF, 0⟩
  else if b = 0xE0 then .inr ⟨0, 0xA0, 0xBF, 1⟩
  else if b = 0xED then .inr ⟨0xD, 0x80, 0x9F, 1⟩
  else if b < 0xF0 then .inr ⟨b - 0xE0, 0x80, 0xBF, 1⟩
  else if b = 0xF0 then .inr ⟨0, 0x90, 0xBF, 2⟩
  else if b < 0xF4 then .inr ⟨b - 0xF0, 0x80, 0xBF, 2⟩
  else if b = 0xF4 then .inr ⟨4, 0x80, 0x8F, 2⟩
  else .inl none

/-- The characters read so far, last first, each piece that cannot be continued to a character as none, and the
    character that is being read. --/
structure Reading8 where
  done : List (Option Char)
  open? : Option Partial8

def Reading8.start (r : Reading8) (b : Nat) : Reading8 :=
  match lead b with
  | .inl c => ⟨c :: r.done, none⟩
  | .inr p => ⟨r.done, some p⟩

def Reading8.push (r : Reading8) (byte : UInt8) : Reading8 :=
  let b := byte.toNat
  match r.open? with
  | none => r.start b
  | some p =>
    if p.low ≤ b ∧ b ≤ p.high then
      let bits := p.bits * 64 + (b - 0x80)
      match p.more with
      | 0 => ⟨some (Char.ofNat bits) :: r.done, none⟩
      | more + 1 => ⟨r.done, some ⟨bits, 0x80, 0xBF, more⟩⟩
    else Reading8.start ⟨none :: r.done, none⟩ b

def Reading8.finish (r : Reading8) : List (Option Char) :=
  (match r.open? with
    | none => r.done
    | some _ => none :: r.done).reverse

/-- The characters of bytes; none stands for a longest piece that cannot be continued to a character. --/
def characters (bytes : ByteArray) : List (Option Char) := (bytes.data.toList.foldl Reading8.push ⟨[], none⟩).finish

def replacement : Char := Char.ofNat 0xFFFD

/-- The text of bytes, with a replacement character for what is no UTF-8. --/
def readable (bytes : ByteArray) : String := String.ofList ((characters bytes).map fun c => c.getD replacement)

/-- The text of bytes that are UTF-8 throughout. --/
def utf8? (bytes : ByteArray) : Option String := String.fromUTF8? bytes

/-! ### 16-bit units

    A character beyond the first plane takes a pair of units, a high one and a low one; half of a pair denotes
    nothing. -/

/-- The first unit of a pair. --/
def isHigh (n : Nat) : Bool := 0xD800 ≤ n && n < 0xDC00

/-- The second unit of a pair. --/
def isLow (n : Nat) : Bool := 0xDC00 ≤ n && n < 0xE000

/-- The character of a pair. --/
def paired (high low : Nat) : Char := Char.ofNat (0x10000 + (high - 0xD800) * 0x400 + (low - 0xDC00))

/-- The units of bytes in a row, `join` making a unit of two bytes, and whether a byte is left over. --/
def unitsOf (join : UInt8 → UInt8 → Nat) : List UInt8 → List Nat × Bool
  | [] => ([], false)
  | [_] => ([], true)
  | a :: b :: rest =>
    let (units, cut) := unitsOf join rest
    (join a b :: units, cut)

/-- The character of a unit that stands alone. --/
def alone (n : Nat) : Char := if isHigh n || isLow n then replacement else Char.ofNat n

/-- The characters of units. What is cut off at the end, a byte or half of a pair, becomes one replacement
    character. --/
def ofUnits (cut : Bool) : List Nat → List Char
  | [] => if cut then [replacement] else []
  | [n] => if isHigh n then [replacement] else alone n :: (if cut then [replacement] else [])
  | n :: m :: rest =>
    if isHigh n && isLow m then paired n m :: ofUnits cut rest else alone n :: ofUnits cut (m :: rest)

def readUnits (join : UInt8 → UInt8 → Nat) (bytes : List UInt8) : String :=
  let (units, cut) := unitsOf join bytes
  String.ofList (ofUnits cut units)

/-- The text of bytes in the encoding that their mark tells. --/
def marked (bytes : ByteArray) : String :=
  match bytes.toList with
  | 0xEF :: 0xBB :: 0xBF :: rest => readable ⟨rest.toArray⟩
  | 0xFF :: 0xFE :: rest => readUnits (fun a b => a.toNat + 256 * b.toNat) rest
  | 0xFE :: 0xFF :: rest => readUnits (fun a b => 256 * a.toNat + b.toNat) rest
  | _ => readable bytes

end Cutroom.Text
