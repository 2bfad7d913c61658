import Cutroom.Decimal.Numeral
import Cutroom.Json.Value

/-! The numbers of a JSON text. A whole number that fits a 64-bit word keeps its value. Any other number becomes
    a double in two steps: as many of its digits as fit a word are rounded to a double, and that is multiplied
    or divided by a power of ten. The result may lie one double beside the nearest one. -/

namespace Cutroom.Json

/-- A number as it is written: its sign, the digits before and after the point and the exponent. --/
structure Written where
  negative : Bool
  whole : List Char
  fraction : Option (List Char)
  exponent : Option Int

/-- A non-empty run of digits and what follows it. --/
def digits? (cs : List Char) : Option (List Char × List Char) :=
  match cs.span Decimal.isDigit with
  | ([], _) => none
  | (ds, rest) => some (ds, rest)

def exponent? : List Char → Option Int
  | '-' :: cs => do
    let (ds, []) ← digits? cs | none
    some (-(Decimal.value ds : Int))
  | '+' :: cs => do
    let (ds, []) ← digits? cs | none
    some (Decimal.value ds)
  | cs => do
    let (ds, []) ← digits? cs | none
    some (Decimal.value ds)

/-- The rest of a number behind its fraction. --/
def withExponent (negative : Bool) (whole : List Char) (fraction : Option (List Char)) :
    List Char → Option Written
  | [] => some ⟨negative, whole, fraction, none⟩
  | c :: cs => if c = 'e' ∨ c = 'E' then (exponent? cs).map fun e => ⟨negative, whole, fraction, some e⟩ else none

/-- The parts of a number without its sign; a zero in front stands alone. --/
def unsigned? (negative : Bool) (cs : List Char) : Option Written := do
  let (whole, rest) ← digits? cs
  if whole.length > 1 ∧ whole.head? = some '0' then none
  match rest with
  | '.' :: rest =>
    let (fraction, rest) ← digits? rest
    withExponent negative whole (some fraction) rest
  | rest => withExponent negative whole none rest

def written? : List Char → Option Written
  | '-' :: cs => unsigned? true cs
  | cs => unsigned? false cs

/-- Gathers digits behind a number as long as it fits a word: the number, and how many digits are left. --/
def gather (n : Nat) : List Char → Nat × Nat
  | [] => (n, 0)
  | c :: cs => if Decimal.pushDigit n c < Nat.pow 2 64 then gather (Decimal.pushDigit n c) cs else (n, cs.length + 1)

def tenTo (k : Nat) : Float := Float.ofScientific 1 false k

/-- A double divided by `10 ^ k`, by the largest power of ten at a time. --/
def dividedByTenTo (k : Nat) (x : Float) : Float :=
  if k ≤ 308 then x / tenTo k
  else if x == 0.0 then x
  else dividedByTenTo (k - 308) (x / tenTo 308)
termination_by k
decreasing_by omega

/-- A double multiplied by `10 ^ k`. --/
def timesTenTo (k : Nat) (x : Float) : Float :=
  if k ≤ 308 then x * tenTo k else if x == 0.0 then x else 1.0 / 0.0

/-- The double of a number, none beyond the finite ones. A digit before the point that is left over raises the
    exponent, one behind the point is dropped. --/
def Written.float? (w : Written) : Option Float :=
  let fraction := w.fraction.getD []
  let (n, above) := gather 0 w.whole
  let (n, below) := gather n fraction
  let exponent : Int := w.exponent.getD 0 + above - (fraction.length - below : Nat)
  let x := match exponent with
    | .ofNat k => timesTenTo k (Float.ofNat n)
    | .negSucc k => dividedByTenTo (k + 1) (Float.ofNat n)
  if x.isFinite then some (if w.negative then -x else x) else none

/-- The whole number that is written without fraction and exponent and fits a word. --/
def Written.integer? (w : Written) : Option Int :=
  match w.fraction, w.exponent with
  | none, none =>
    let n := Decimal.value w.whole
    if w.negative then (if n = 0 ∨ Nat.pow 2 63 < n then none else some (-(n : Int)))
    else if n < Nat.pow 2 64 then some n
    else none
  | _, _ => none

def Written.value (w : Written) : Json :=
  match w.integer? with
  | some n => .integer n
  | none =>
    match w.float? with
    | some x => .real x
    | none => .unreadable

end Cutroom.Json
