/-! Decimal numerals of natural numbers: the digits of a number, the number of a list of digits, and
    numerals padded with zeros to a width. -/

namespace Cutroom.Decimal

/-- The character of a digit below ten. --/
def digitChar (d : Nat) : Char := Char.ofNat (48 + d)

/-- The digits of a number, with no zero in front. --/
def numeral (n : Nat) : List Char :=
  if n < 10 then [digitChar n] else numeral (n / 10) ++ [digitChar (n % 10)]

/-- The value of a digit character. --/
def digit? (c : Char) : Option Nat :=
  if '0' ≤ c ∧ c ≤ '9' then some (c.toNat - 48) else none

def isDigit (c : Char) : Bool := (digit? c).isSome

/-- One more digit at the end of a number. --/
def pushDigit (n : Nat) (c : Char) : Nat := 10 * n + (digit? c).getD 0

/-- The number that digits write; characters that are no digits count as zero. --/
def value (cs : List Char) : Nat := cs.foldl pushDigit 0

/-- A numeral of at least `width` digits, with zeros in front. --/
def padded (width n : Nat) : List Char :=
  let ds := numeral n
  List.replicate (width - ds.length) '0' ++ ds

/-- The numeral of an integer, with a sign only below zero. --/
def integral : Int → List Char
  | .ofNat n => numeral n
  | .negSucc n => '-' :: numeral (n + 1)

end Cutroom.Decimal
