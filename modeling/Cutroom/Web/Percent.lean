import Cutroom.Text.Digits

/-! Characters that may not stand in a part of an address are written as percent signs with two hexadecimal digits
    each, one for every byte. -/

namespace Cutroom.Percent

/-- Control characters, and all that is not ASCII. --/
def isForeign (c : Char) : Bool := c.toNat < 0x20 || 0x7E < c.toNat

/-- The bytes of a character, each as a percent sign and two digits. --/
def encodedChar (c : Char) : List Char :=
  (String.singleton c).toUTF8.toList.flatMap fun b => '%' :: Hex.pair Hex.capital b.toNat

def encode (refused : Char → Bool) (cs : List Char) : List Char :=
  cs.flatMap fun c => if refused c then encodedChar c else [c]

/-- The bytes that are meant; a percent sign without two digits behind it means itself. --/
def decode : List Char → List UInt8
  | [] => []
  | '%' :: a :: b :: cs =>
    match Hex.value? [a, b] with
    | some n => UInt8.ofNat n :: decode cs
    | none => UInt8.ofNat 37 :: decode (a :: b :: cs)
  | c :: cs => (String.singleton c).toUTF8.toList ++ decode cs

/-- The text that is meant, none where its bytes are no UTF-8. --/
def text? (cs : List Char) : Option String := String.fromUTF8? ⟨(decode cs).toArray⟩

end Cutroom.Percent
