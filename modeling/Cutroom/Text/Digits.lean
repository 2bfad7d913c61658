/-! Numbers and bytes written with digits. Hexadecimal digits are read in either case and written in one. Of sixty-four
    digits, three bytes make four, and equals signs fill up the last four. -/

namespace Cutroom.Hex

/-- The value of a digit. --/
def digit? (c : Char) : Option (Fin 16) :=
  if '0' ≤ c ∧ c ≤ '9' then some (Fin.ofNat 16 (c.toNat - 48))
  else if 'a' ≤ c ∧ c ≤ 'f' then some (Fin.ofNat 16 (c.toNat - 87))
  else if 'A' ≤ c ∧ c ≤ 'F' then some (Fin.ofNat 16 (c.toNat - 55))
  else none

/-- The digit of a value, a small letter from ten on. --/
def small (d : Fin 16) : Char := if d.val < 10 then Char.ofNat (48 + d.val) else Char.ofNat (87 + d.val)

/-- The digit of a value, a capital from ten on. --/
def capital (d : Fin 16) : Char := if d.val < 10 then Char.ofNat (48 + d.val) else Char.ofNat (55 + d.val)

/-- The two digits of a byte. --/
def pair (digit : Fin 16 → Char) (n : Nat) : List Char := [digit (Fin.ofNat 16 (n / 16)), digit (Fin.ofNat 16 n)]

/-- The digits of a number, with no zero in front. --/
def numeral (n : Nat) : List Char :=
  if n < 16 then [small (Fin.ofNat 16 n)] else numeral (n / 16) ++ [small (Fin.ofNat 16 n)]

/-- The number that digits write, none where there is another character. --/
def value? (cs : List Char) : Option Nat :=
  cs.foldl (fun n? c => n?.bind fun n => (digit? c).map fun d => 16 * n + d.val) (some 0)

end Cutroom.Hex

namespace Cutroom.Base64

def digits : List Char := "ABCDEFGHIJKLMNOPQRSTUVWXYZabcdefghijklmnopqrstuvwxyz0123456789+/".toList

/-- The digit of a number, of which the last six bits count. --/
def digit (n : Nat) : Char := digits.getD (n % 64) '='

def encode : List UInt8 → List Char
  | [] => []
  | [a] => [digit (a.toNat / 4), digit (a.toNat * 16), '=', '=']
  | [a, b] => [digit (a.toNat / 4), digit (a.toNat * 16 + b.toNat / 16), digit (b.toNat * 4), '=']
  | a :: b :: c :: rest =>
    digit (a.toNat / 4) :: digit (a.toNat * 16 + b.toNat / 16) :: digit (b.toNat * 4 + c.toNat / 64) ::
      digit c.toNat :: encode rest

end Cutroom.Base64
