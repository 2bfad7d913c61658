import Cutroom.Decimal.Binary
import Cutroom.Decimal.Numeral

/-! Texts of a double: the shortest decimal that reads back to it, without an exponent, and a decimal with a fixed
    number of places.

    The numbers that round to a double form an interval, ends included exactly when its significand
    is even. For one digit, two digits and so on, the two neighbours of the double among the decimals
    with that many digits are tried; the first that lies in the interval is the answer, the nearer one
    if both do, and the larger one if both are equally near. Seventeen digits always suffice.

    To a fixed number of places the exact value is rounded, and a value half-way between two texts goes to the even
    one. -/

namespace Cutroom.Decimal

/-- `digits * 10 ^ exponent`. --/
structure Scientific where
  digits : Nat
  exponent : Int
deriving DecidableEq, Repr

/-- The decimal `d * 10 ^ k` as a fraction. --/
def Scientific.fraction (d : Scientific) : Nat × Nat :=
  match d.exponent with
  | .ofNat k => (d.digits * Nat.pow 10 k, 1)
  | .negSucc k => (d.digits, Nat.pow 10 (k + 1))

/-- The decimal lies where numbers round to the double. --/
def Binary.readsBack (b : Binary) (d : Scientific) : Bool :=
  let (dn, dd) := d.fraction
  let (low, ld) := scaled (4 * b.significand - if b.narrowBelow then 1 else 2) (b.exponent - 2)
  let (high, hd) := scaled (4 * b.significand + 2) (b.exponent - 2)
  if b.significand % 2 = 0 then low * dd ≤ dn * ld && dn * hd ≤ high * dd
  else low * dd < dn * ld && dn * hd < high * dd

/-- The least `k` with `num / den < 10 ^ k`, for a positive fraction of a double. --/
def magnitude (num den : Nat) : Int :=
  if den ≤ num then ((numeral (num / den)).length : Int)
  else 1 - ((numeral (den / num)).length : Int)

/-- The nearest of the two neighbours of the double with `n` digits that read back, if one does. --/
def Binary.candidate? (b : Binary) (n : Nat) : Option Scientific :=
  let (num, den) := scaled b.significand b.exponent
  let unit := magnitude num den - n
  let (un, ud) : Nat × Nat := Scientific.fraction ⟨1, unit⟩
  let lower := num * ud / (den * un)
  let down : Scientific := ⟨lower, unit⟩
  let up : Scientific := if lower + 1 = Nat.pow 10 n then ⟨Nat.pow 10 (n - 1), unit + 1⟩ else ⟨lower + 1, unit⟩
  match b.readsBack down, b.readsBack up with
  | true, true => some (if 2 * num * ud < (2 * lower + 1) * den * un then down else up)
  | true, false => some down
  | false, true => some up
  | false, false => none

/-- The shortest decimal that reads back to the double, its sign left aside. --/
def Binary.shortest (b : Binary) : Scientific :=
  if b.significand = 0 then ⟨0, 0⟩
  else ((List.range 17).findSome? fun n => b.candidate? (n + 1)).getD ⟨0, 0⟩

/-- The text of a decimal with every digit in its place and no exponent. --/
def Scientific.positional (d : Scientific) : List Char :=
  let ds := numeral d.digits
  match d.exponent with
  | .ofNat k => if d.digits = 0 then ds else ds ++ List.replicate k '0'
  | .negSucc k =>
    if k + 1 < ds.length then ds.take (ds.length - (k + 1)) ++ '.' :: ds.drop (ds.length - (k + 1))
    else '0' :: '.' :: List.replicate (k + 1 - ds.length) '0' ++ ds

/-- A sign in front of a text when the flag holds. --/
def signed (negative : Bool) (text : List Char) : List Char := if negative then '-' :: text else text

/-- A double in words when it is no number or infinite, otherwise by `finite`. --/
def textBy (finite : Binary → List Char) (x : Float) : String :=
  match Binary.ofFloat? x with
  | some b => String.ofList (signed b.negative (finite b))
  | none => if x.isNaN then "NaN" else if x < 0.0 then "-inf" else "inf"

/-- A double by its shortest digits, in full and with no trailing `.0`. --/
def shortestText (x : Float) : String := textBy (fun b => b.shortest.positional) x

/-! ### A fixed number of places -/

/-- The quotient rounded to the nearest natural number, halves to the even one. --/
def roundDiv (num den : Nat) : Nat :=
  let q := num / den
  let twice := 2 * (num % den)
  if twice < den then q else if den < twice then q + 1 else if q % 2 = 0 then q else q + 1

/-- The magnitude of a double with `places` digits after the point. --/
def Binary.fixed (places : Nat) (b : Binary) : List Char :=
  let (num, den) := scaled b.significand b.exponent
  let n := roundDiv (num * Nat.pow 10 places) den
  numeral (n / Nat.pow 10 places) ++ '.' :: padded places (n % Nat.pow 10 places)

/-- A double with three digits after the point, as times are shown in messages. --/
def thousandths (x : Float) : String := textBy (Binary.fixed 3) x

end Cutroom.Decimal
