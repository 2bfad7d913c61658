import Cutroom.Proofs.Timeline.Rounded

/-! Rounding to the nearest double. The rank of what a number is rounded to is a function of the number alone
    (`Seconds.rankOf`), whatever mantissa, exponent and lost bits it is given by (`Seconds.place_rounded`), and a greater
    number is never rounded to a lower rank (`Seconds.rankOf_mono`). -/

namespace Cutroom
namespace Seconds
open Float.Model Float.Model.UnpackedFloat

/-! ### The nearest whole number -/

/-- The whole number nearest to one that is not negative, and the even one of two. --/
def nearest (x : ℚ) : ℕ :=
  if x - ⌊x⌋₊ < 1 / 2 then ⌊x⌋₊ else if x - ⌊x⌋₊ = 1 / 2 then ⌊x⌋₊ + ⌊x⌋₊ % 2 else ⌊x⌋₊ + 1

theorem nearest_bounds (x : ℚ) : ⌊x⌋₊ ≤ nearest x ∧ nearest x ≤ ⌊x⌋₊ + 1 := by
  unfold nearest
  split
  · omega
  · split <;> omega

theorem nearest_natCast (n : ℕ) : nearest n = n := by
  rw [nearest, Nat.floor_natCast, sub_self, if_pos (by norm_num)]

theorem nearest_mono {x y : ℚ} (h : x ≤ y) : nearest x ≤ nearest y := by
  rcases Nat.lt_or_eq_of_le (Nat.floor_le_floor h) with hlt | heq
  · calc nearest x ≤ ⌊x⌋₊ + 1 := (nearest_bounds x).2
      _ ≤ ⌊y⌋₊ := hlt
      _ ≤ nearest y := (nearest_bounds y).1
  · -- Between the same two whole numbers the one above is taken from the middle on.
    unfold nearest
    rw [heq]
    split
    · split
      · exact le_rfl
      · split <;> omega
    · rename_i hx
      have hy : ¬ y - ⌊y⌋₊ < 1 / 2 := by
        intro hy
        exact hx (by linarith)
      rw [if_neg hy]
      split
      · split
        · exact le_rfl
        · omega
      · rename_i hne
        have hfar : y - ⌊y⌋₊ ≠ 1 / 2 := by
          intro heven
          exact hne (le_antisymm (by linarith) (not_lt.mp hx))
        rw [if_neg hfar]

/-! ### Mantissas and lost bits -/

/-- A mantissa and the two bits behind it stand for a number: the first bit is one half, and the second one says that
    there is more. --/
def Stands : ExtendedMantissa → ℚ → Prop
  | ⟨m, false, false⟩, x => x = m
  | ⟨m, false, true⟩, x => m < x ∧ x < m + 1 / 2
  | ⟨m, true, false⟩, x => x = m + 1 / 2
  | ⟨m, true, true⟩, x => m + 1 / 2 < x ∧ x < m + 1

theorem Stands.bounds {em : ExtendedMantissa} {x : ℚ} (h : Stands em x) : em.mantissa ≤ x ∧ x < em.mantissa + 1 := by
  obtain ⟨m, half, more⟩ := em
  cases half <;> cases more <;> simp only [Stands] at h ⊢ <;> constructor <;> linarith

theorem Stands.floor {em : ExtendedMantissa} {x : ℚ} (h : Stands em x) : ⌊x⌋₊ = em.mantissa :=
  (Nat.floor_eq_iff ((Nat.cast_nonneg _).trans h.bounds.1)).mpr h.bounds

/-- The bits are enough to tell the nearest whole number. --/
theorem Stands.rounded {em : ExtendedMantissa} {x : ℚ} (h : Stands em x) : em.roundedMantissa = nearest x := by
  have hfloor := h.floor
  unfold nearest
  rw [hfloor]
  obtain ⟨m, half, more⟩ := em
  cases half <;> cases more <;> simp only [Stands] at h ⊢
  · rw [if_pos (by linarith)]
    rfl
  · rw [if_pos (by linarith)]
    rfl
  · rw [if_neg (by linarith), if_pos (by linarith)]
    rfl
  · rw [if_neg (by linarith), if_neg (by linarith)]
    rfl

theorem Stands.halved {em : ExtendedMantissa} {x : ℚ} (h : Stands em x) : Stands em.shiftRightOne (x / 2) := by
  obtain ⟨m, half, more⟩ := em
  obtain ⟨k, rfl | rfl⟩ : ∃ k, m = 2 * k ∨ m = 2 * k + 1 := ⟨m / 2, by omega⟩
  · have hdiv : 2 * k / 2 = k := by omega
    have hmod : (2 * k % 2 != 0) = false := by simp
    cases half <;> cases more <;>
      simp only [Stands, ExtendedMantissa.shiftRightOne, hdiv, hmod, Bool.or_false, Bool.or_true] at h ⊢ <;>
      push_cast at h <;> grind
  · have hdiv : (2 * k + 1) / 2 = k := by omega
    have hmod : ((2 * k + 1) % 2 != 0) = true := by simp
    cases half <;> cases more <;>
      simp only [Stands, ExtendedMantissa.shiftRightOne, hdiv, hmod, Bool.or_false, Bool.or_true] at h ⊢ <;>
      push_cast at h <;> grind

theorem Stands.shifted {em : ExtendedMantissa} {x : ℚ} (h : Stands em x) (n : ℕ) : Stands (em >>> n) (x / 2 ^ n) := by
  induction n with
  | zero => rwa [pow_zero, div_one]
  | succ n ih =>
    rw [pow_succ, ← div_div]
    exact ih.halved

theorem stands_exact (m : ℕ) : Stands (.ofMantissaAndAccuracy m .exact) m := rfl

theorem stands_fraction (n : ℕ) {d : ℕ} (hd : 0 < d) :
    Stands (.ofMantissaAndAccuracy (n / d) (accuracyOfFraction (n % d) d)) (n / d : ℚ) := by
  have hpos : (0 : ℚ) < d := Nat.cast_pos.mpr hd
  have hsplit : (n / d : ℚ) = (n / d : ℕ) + (n % d : ℕ) / d := by
    rw [add_div' _ _ _ (ne_of_gt hpos), div_left_inj' (ne_of_gt hpos)]
    exact_mod_cast (Nat.div_add_mod' n d).symm
  have hless : ((n % d : ℕ) : ℚ) / d < 1 := (div_lt_one hpos).mpr (Nat.cast_lt.mpr (Nat.mod_lt n hd))
  rw [hsplit]
  unfold accuracyOfFraction
  split
  · rename_i hzero
    rw [hzero, Nat.cast_zero, zero_div, add_zero]
    rfl
  · rename_i hrest
    have hmore : (0 : ℚ) < ((n % d : ℕ) : ℚ) / d := div_pos (Nat.cast_pos.mpr (Nat.pos_of_ne_zero hrest)) hpos
    rcases Nat.lt_trichotomy (2 * (n % d)) d with hlt | heq | hgt
    · have hhalf : ((n % d : ℕ) : ℚ) / d < 1 / 2 := by
        rw [div_lt_div_iff₀ hpos two_pos]
        exact_mod_cast (by omega : n % d * 2 < 1 * d)
      rw [Std.compare_eq_lt.mpr hlt]
      exact ⟨by linarith, by linarith⟩
    · have hhalf : ((n % d : ℕ) : ℚ) / d = 1 / 2 := by
        rw [div_eq_div_iff (ne_of_gt hpos) two_ne_zero]
        exact_mod_cast (by omega : n % d * 2 = 1 * d)
      rw [Nat.compare_eq_eq.mpr heq, hhalf]
      rfl
    · have hhalf : 1 / 2 < ((n % d : ℕ) : ℚ) / d := by
        rw [div_lt_div_iff₀ two_pos hpos]
        exact_mod_cast (by omega : 1 * d < n % d * 2)
      rw [Std.compare_eq_gt.mpr hgt]
      exact ⟨by linarith, by linarith⟩

/-! ### The exponent -/

/-- The exponent of the doubles around a number: 53 bits of it are kept, and fewer where the exponent is the least
    one. --/
def exponentOf (v : ℚ) : ℤ := max (Int.log 2 v - 52) (-1074)

theorem lt_exponentOf (v : ℚ) : v < 2 ^ 53 * (2 : ℚ) ^ exponentOf v := by
  have hlog : v < (2 : ℚ) ^ (Int.log 2 v + 1) := Int.lt_zpow_succ_log_self (b := 2) (by decide) v
  refine hlog.trans_le ?_
  rw [← zpow_natCast, ← zpow_add₀ two_ne_zero]
  refine zpow_le_zpow_right₀ one_le_two ?_
  unfold exponentOf
  push_cast
  omega

theorem least_exponentOf (v : ℚ) : -1074 ≤ exponentOf v := le_max_right _ _

theorem exponentOf_le {v : ℚ} (hv : 0 < v) : exponentOf v = -1074 ∨ 2 ^ 52 * (2 : ℚ) ^ exponentOf v ≤ v := by
  rcases max_choice (Int.log 2 v - 52) (-1074) with heq | heq
  · refine .inr ?_
    have hlog : (2 : ℚ) ^ Int.log 2 v ≤ v := Int.zpow_log_le_self (b := 2) (by decide) hv
    refine le_of_eq_of_le ?_ hlog
    rw [exponentOf, heq, ← zpow_natCast, ← zpow_add₀ two_ne_zero]
    congr 1
    push_cast
    omega
  · exact .inl heq

theorem exponentOf_mono {v w : ℚ} (hv : 0 < v) (h : v ≤ w) : exponentOf v ≤ exponentOf w :=
  max_le_max (Int.sub_le_sub_right (Int.log_mono_right hv h) 52) (Int.le_refl _)

/-- A mantissa tells the exponent, however many bits behind it are lost; one without any bits does so only where the
    exponent is the least one. --/
theorem target_eq_exponentOf {m : ℕ} {e : ℤ} {x : ℚ} (hx : 0 < x) (hlow : m ≤ x) (hhigh : x < m + 1)
    (hm : 0 < m ∨ e ≤ -1074) : target m e = exponentOf (x * (2 : ℚ) ^ e) := by
  have htwo : (0 : ℚ) < (2 : ℚ) ^ e := zpow_pos two_pos e
  have hpos : 0 < x * (2 : ℚ) ^ e := mul_pos hx htwo
  by_cases hzero : m = 0
  · subst hzero
    have hless : Int.log 2 (x * (2 : ℚ) ^ e) < e := by
      refine (Int.lt_zpow_iff_log_lt (b := 2) (by decide) hpos).mp ?_
      rw [Nat.cast_zero, zero_add] at hhigh
      exact mul_lt_of_lt_one_left htwo hhigh
    rw [target_eq, exponentOf, Nat.log2_zero]
    omega
  · have hlog : Int.log 2 (x * (2 : ℚ) ^ e) = m.log2 + e := by
      refine Int.le_antisymm (Int.lt_add_one_iff.mp ?_) ?_
      · refine (Int.lt_zpow_iff_log_lt (b := 2) (by decide) hpos).mp ?_
        have hbits : ((m + 1 : ℕ) : ℚ) ≤ ((2 ^ (m.log2 + 1) : ℕ) : ℚ) := Nat.cast_le.mpr Nat.lt_log2_self
        rw [add_right_comm, Nat.cast_ofNat, zpow_add₀ two_ne_zero]
        refine (mul_lt_mul_iff_left₀ htwo).mpr (hhigh.trans_le ?_)
        exact_mod_cast hbits
      · refine (Int.zpow_le_iff_le_log (b := 2) (by decide) hpos).mp ?_
        have hbits : ((2 ^ m.log2 : ℕ) : ℚ) ≤ m := Nat.cast_le.mpr (Nat.log2_self_le hzero)
        rw [Nat.cast_ofNat, zpow_add₀ two_ne_zero]
        refine (mul_le_mul_iff_left₀ htwo).mpr (le_trans' hlow ?_)
        exact_mod_cast hbits
    rw [target_eq, exponentOf, hlog]
    omega

/-! ### The rank of what a number is rounded to -/

/-- The mantissa to which a number is rounded; it may have one bit too many. --/
def mantissaOf (v : ℚ) : ℕ := nearest (v / (2 : ℚ) ^ exponentOf v)

theorem mantissaOf_le (v : ℚ) : mantissaOf v ≤ 2 ^ 53 := by
  have hless : v / (2 : ℚ) ^ exponentOf v ≤ ((2 ^ 53 : ℕ) : ℚ) := by
    rw [div_le_iff₀ (zpow_pos two_pos _)]
    exact_mod_cast (lt_exponentOf v).le
  exact (nearest_mono hless).trans_eq (nearest_natCast _)

theorem mantissaOf_full {v : ℚ} (hv : 0 < v) : exponentOf v = -1074 ∨ 2 ^ 52 ≤ mantissaOf v := by
  refine (exponentOf_le hv).imp_right fun hfull => ?_
  have hmore : ((2 ^ 52 : ℕ) : ℚ) ≤ v / (2 : ℚ) ^ exponentOf v := by
    rw [le_div_iff₀ (zpow_pos two_pos _)]
    exact_mod_cast hfull
  exact (nearest_natCast _).symm.trans_le (nearest_mono hmore)

/-- The place of a mantissa and an exponent in the order of all doubles; a bit too many is carried. --/
def placeAt (m : ℕ) (e : ℤ) : ℤ := if m < 2 ^ 53 then (e + 1074) * 2 ^ 53 + m else (e + 1 + 1074) * 2 ^ 53 + 2 ^ 52

/-- The rank of a place; what is too large is infinite. --/
def capped (place : ℤ) : ℤ := if place < 2046 * 2 ^ 53 then place else 2 ^ 64

theorem capped_mono {p q : ℤ} (h : p ≤ q) : capped p ≤ capped q := by
  unfold capped
  split <;> split <;> omega

/-- The rank of the double to which a number after zero is rounded. --/
def positiveRankOf (v : ℚ) : ℤ := capped (placeAt (mantissaOf v) (exponentOf v))

theorem positiveRankOf_nonneg (v : ℚ) : 0 ≤ positiveRankOf v := by
  have hleast := least_exponentOf v
  unfold positiveRankOf capped placeAt
  split <;> split <;> omega

theorem positiveRankOf_mono {v w : ℚ} (hv : 0 < v) (h : v ≤ w) : positiveRankOf v ≤ positiveRankOf w := by
  refine capped_mono ?_
  have hcarry := mantissaOf_le v
  unfold placeAt
  rcases Int.lt_or_eq_of_le (exponentOf_mono hv h) with hlt | heq
  · have hfull := mantissaOf_full (hv.trans_le h)
    have hleast := least_exponentOf v
    split <;> split <;> omega
  · have hmantissa : mantissaOf v ≤ mantissaOf w := by
      unfold mantissaOf
      rw [heq]
      exact nearest_mono (div_le_div_of_nonneg_right h (zpow_pos two_pos _).le)
    split <;> split <;> omega

/-- The rank of the double to which a number is rounded. --/
def rankOf (v : ℚ) : ℤ := if 0 < v then positiveRankOf v else if v < 0 then -positiveRankOf (-v) else 0

theorem rankOf_neg (v : ℚ) : rankOf (-v) = -rankOf v := by
  unfold rankOf
  rcases lt_trichotomy v 0 with hv | rfl | hv
  · rw [if_pos (neg_pos.mpr hv), if_neg hv.not_gt, if_pos hv, neg_neg]
  · rfl
  · rw [if_neg (neg_neg_of_pos hv).not_gt, if_pos (neg_neg_of_pos hv), if_pos hv, neg_neg]

/-- A greater number is not rounded to a lower rank. --/
theorem rankOf_mono {v w : ℚ} (h : v ≤ w) : rankOf v ≤ rankOf w := by
  have hv := positiveRankOf_nonneg (-v)
  have hw := positiveRankOf_nonneg w
  rcases lt_trichotomy v 0 with hv | rfl | hv
  · rcases lt_trichotomy w 0 with hw | rfl | hw
    · rw [rankOf, rankOf, if_neg hv.not_gt, if_pos hv, if_neg hw.not_gt, if_pos hw]
      exact Int.neg_le_neg (positiveRankOf_mono (neg_pos.mpr hw) (neg_le_neg h))
    · rw [rankOf, rankOf, if_neg hv.not_gt, if_pos hv, if_neg (lt_irrefl _), if_neg (lt_irrefl _)]
      omega
    · rw [rankOf, rankOf, if_neg hv.not_gt, if_pos hv, if_pos hw]
      omega
  · rcases h.lt_or_eq with hw | rfl
    · rw [rankOf, rankOf, if_neg (lt_irrefl _), if_neg (lt_irrefl _), if_pos hw]
      omega
    · exact Int.le_refl _
  · rw [rankOf, rankOf, if_pos hv, if_pos (hv.trans_le h)]
    exact positiveRankOf_mono hv h

/-! ### Rounding -/

/-- A mantissa of 53 bits at most, or with one bit too many, is kept or carried, and packed. --/
theorem place_kept (s : Sign) {m : ℕ} {e : ℤ} (hcarry : m ≤ 2 ^ 53) (hleast : -1074 ≤ e)
    (hfull : e = -1074 ∨ 2 ^ 52 ≤ m) {u : UnpackedFloat}
    (hu : ∀ p, shiftToTargetExponent Format.binary64 m e .exact = p →
      u = if hz : p.1.mantissa = 0 then .zero s else .finite s p.1.mantissa p.2 (Nat.pos_of_ne_zero hz)) :
    place (UnpackedFloat.unpack Format.binary64 (UnpackedFloat.pack Format.binary64 u)) =
      s.apply (capped (placeAt m e)) := by
  unfold capped placeAt
  by_cases hbits : m < 2 ^ 53
  · rw [hu _ (shiftToTargetExponent_small hbits hleast), if_pos hbits]
    split
    · rename_i hz
      have hzero : m = 0 := hz
      obtain rfl : e = -1074 := hfull.resolve_right (by omega)
      rw [hzero, unpack_pack_of_bounded (u := .zero s) trivial]
      cases s <;> rfl
    · have hcanonical : Canonical m e := ⟨hbits, hleast, hfull.symm⟩
      rw [unpack_pack hcanonical]
      by_cases hmost : e ≤ 971
      · rw [if_pos hmost, if_pos (by omega)]
        rfl
      · rw [if_neg hmost, if_neg (by omega)]
        rfl
  · have htop : m = 2 ^ 53 := by omega
    rw [htop] at hu
    rw [hu _ (shiftToTargetExponent_carry hleast), if_neg hbits, dif_neg (Nat.ne_of_gt (Nat.two_pow_pos 52))]
    have hcanonical : Canonical (2 ^ 52) (e + 1) := ⟨by decide, by omega, .inl (Nat.le_refl _)⟩
    rw [unpack_pack hcanonical]
    by_cases hmost : e + 1 ≤ 971
    · rw [if_pos hmost, if_pos (by omega)]
      rfl
    · rw [if_neg hmost, if_neg (by omega)]
      rfl

theorem shiftToTargetExponent_lossy {m : ℕ} {e : ℤ} (accuracy : Accuracy) (h : e ≤ target m e) :
    shiftToTargetExponent Format.binary64 m e accuracy =
      (ExtendedMantissa.ofMantissaAndAccuracy m accuracy >>> (target m e - e).toNat, target m e) := by
  have hexponent : e + ((target m e - e).toNat : Int) = target m e := by omega
  exact congrArg (Prod.mk _) hexponent

/-- The rank of what is rounded depends only on the number for which a mantissa and what is lost of it stand. --/
theorem place_rounded (s : Sign) {m : ℕ} {e : ℤ} {accuracy : Accuracy} {x : ℚ}
    (hx : Stands (.ofMantissaAndAccuracy m accuracy) x) (hpos : 0 < x) (hm : 0 < m ∨ e ≤ -1074) (he : e ≤ target m e) :
    place (UnpackedFloat.unpack Format.binary64 (UnpackedFloat.pack Format.binary64
      (roundWithAccuracy Format.binary64 s m e accuracy))) = s.apply (positiveRankOf (x * (2 : ℚ) ^ e)) := by
  have hv : 0 < x * (2 : ℚ) ^ e := mul_pos hpos (zpow_pos two_pos e)
  have hmantissa : (ExtendedMantissa.ofMantissaAndAccuracy m accuracy).mantissa = m := by
    cases accuracy with
    | exact => rfl
    | inexact half => cases half <;> rfl
  obtain ⟨hlow, hhigh⟩ := hx.bounds
  rw [hmantissa] at hlow hhigh
  have htarget := target_eq_exponentOf hpos hlow hhigh hm
  have hexponent : e + ((target m e - e).toNat : Int) = target m e := by omega
  have hrounded : (ExtendedMantissa.ofMantissaAndAccuracy m accuracy >>> (target m e - e).toNat).roundedMantissa =
      mantissaOf (x * (2 : ℚ) ^ e) := by
    rw [(hx.shifted _).rounded, mantissaOf, ← htarget]
    conv_rhs => rw [← hexponent]
    rw [zpow_add₀ two_ne_zero, zpow_natCast, mul_comm ((2 : ℚ) ^ e), mul_div_mul_right _ _ (zpow_pos two_pos e).ne']
  refine place_kept s (mantissaOf_le _) (least_exponentOf _) (mantissaOf_full hv) ?_
  rintro p rfl
  rw [← htarget, ← hrounded]
  unfold roundWithAccuracy
  rw [shiftToTargetExponent_lossy accuracy he]

end Seconds
end Cutroom
