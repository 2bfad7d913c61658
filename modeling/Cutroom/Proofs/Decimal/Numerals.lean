import Cutroom.Decimal.Numeral

/-! A numeral consists of digits and writes the number that it was made of (`Decimal.value_numeral`), also with zeros in
    front of it (`Decimal.value_padded`). No other numeral than that of zero begins with one. -/

namespace Cutroom
namespace Decimal

theorem digit?_digitChar {d : Nat} (h : d < 10) : digit? (digitChar d) = some d := by
  have hall : ∀ d < 10, digit? (digitChar d) = some d := by decide
  exact hall d h

theorem isDigit_digitChar {d : Nat} (h : d < 10) : isDigit (digitChar d) = true := by
  rw [isDigit, digit?_digitChar h, Option.isSome_some]

theorem numeral_ne_nil (n : Nat) : numeral n ≠ [] := by
  unfold numeral
  split
  · exact List.cons_ne_nil _ _
  · exact List.append_ne_nil_of_right_ne_nil _ (List.cons_ne_nil _ _)

theorem isDigit_of_mem_numeral {n : Nat} {c : Char} (h : c ∈ numeral n) : isDigit c = true := by
  induction n using numeral.induct with
  | case1 n hn =>
    rw [numeral, if_pos hn, List.mem_singleton] at h
    exact h ▸ isDigit_digitChar hn
  | case2 n hn ih =>
    rw [numeral, if_neg hn, List.mem_append, List.mem_singleton] at h
    rcases h with h | h
    · exact ih h
    · exact h ▸ isDigit_digitChar (Nat.mod_lt n (by omega))

theorem value_concat (cs : List Char) (c : Char) : value (cs ++ [c]) = pushDigit (value cs) c := by
  rw [value, List.foldl_append, List.foldl_cons, List.foldl_nil, ← value]

theorem value_numeral (n : Nat) : value (numeral n) = n := by
  induction n using numeral.induct with
  | case1 n hn =>
    rw [numeral, if_pos hn]
    show pushDigit 0 (digitChar n) = n
    rw [pushDigit, digit?_digitChar hn, Option.getD_some, Nat.mul_zero, Nat.zero_add]
  | case2 n hn ih =>
    rw [numeral, if_neg hn, value_concat, ih, pushDigit, digit?_digitChar (Nat.mod_lt n (by omega)), Option.getD_some]
    omega

/-! ### Zeros in front -/

theorem value_zeros (k : Nat) (cs : List Char) : value (List.replicate k '0' ++ cs) = value cs := by
  induction k with
  | zero => rfl
  | succ k ih => exact ih

theorem value_padded (width n : Nat) : value (padded width n) = n := (value_zeros _ _).trans (value_numeral n)

theorem isDigit_of_mem_padded {width n : Nat} {c : Char} (h : c ∈ padded width n) : isDigit c = true := by
  rcases List.mem_append.mp h with h | h
  · rw [List.eq_of_mem_replicate h]
    rfl
  · exact isDigit_of_mem_numeral h

theorem padded_ne_nil (width n : Nat) : padded width n ≠ [] :=
  List.append_ne_nil_of_right_ne_nil _ (numeral_ne_nil n)

theorem head?_numeral {n : Nat} (h : 0 < n) : (numeral n).head? ≠ some '0' := by
  induction n using numeral.induct with
  | case1 n hn =>
    have hall : ∀ d < 10, 0 < d → some (digitChar d) ≠ some '0' := by decide
    rw [numeral, if_pos hn]
    exact hall n hn h
  | case2 n hn ih =>
    have hrest : 0 < n / 10 := by omega
    rw [numeral, if_neg hn]
    cases hdigits : numeral (n / 10) with
    | nil => exact absurd hdigits (numeral_ne_nil _)
    | cons first digits =>
      rw [hdigits] at ih
      exact ih hrest

/-- A numeral of more than one digit does not begin with a zero. --/
theorem head?_numeral_of_long {n : Nat} (h : 1 < (numeral n).length) : (numeral n).head? ≠ some '0' := by
  refine head?_numeral (Nat.pos_of_ne_zero fun hzero => ?_)
  subst hzero
  rw [numeral, if_pos (by decide)] at h
  exact absurd h (by decide)

end Decimal
end Cutroom
