/-! A finite double is a sign, a significand and a power of two. Everything that is printed about a
    double is computed from these three in exact arithmetic. -/

namespace Cutroom.Decimal

/-- The value `significand * 2 ^ exponent`, negated when `negative` holds. --/
structure Binary where
  negative : Bool
  significand : Nat
  exponent : Int
  /-- The gap to the next value toward zero is half the gap away from zero. --/
  narrowBelow : Bool
deriving DecidableEq, Repr

/-- The three parts of a double, none for an infinity and for what is not a number. --/
def Binary.ofFloat? (x : Float) : Option Binary :=
  let bits : Nat := x.toBits.toNat
  let fraction : Nat := bits % Nat.pow 2 52
  let field : Nat := bits / Nat.pow 2 52 % Nat.pow 2 11
  let negative := bits / Nat.pow 2 63 == 1
  if field = 2047 then none
  else if field = 0 then some ⟨negative, fraction, -1074, false⟩
  else some ⟨negative, fraction + Nat.pow 2 52, (field : Int) - 1075, fraction == 0 && field != 1⟩

/-- `n * 2 ^ e` as a fraction of two natural numbers. --/
def scaled (n : Nat) (e : Int) : Nat × Nat :=
  match e with
  | .ofNat k => (n * Nat.pow 2 k, 1)
  | .negSucc k => (n, Nat.pow 2 (k + 1))

end Cutroom.Decimal
