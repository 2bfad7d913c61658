import Cutroom.Proofs.Timeline.Nearest

/-! What the operations on doubles come to. A finite double stands for a rational number (`Seconds.value`), and a sum,
    difference, product or quotient of finite doubles has the rank to which the exact one is rounded
    (`Seconds.rank_add` and its like). So these operations keep the order of times, even where they overflow
    (`Seconds.add_le_add_right` and its like). -/

namespace Cutroom
namespace Seconds
open Float.Model Float.Model.UnpackedFloat

/-! ### Values -/

/-- A number with a sign. --/
def signed : Sign → ℚ → ℚ
  | .negative, v => -v
  | .positive, v => v

theorem signed_mul (s s' : Sign) (v w : ℚ) : signed s v * signed s' w = signed (s * s') (v * w) := by
  cases s <;> cases s'
  · exact neg_mul_neg v w
  · exact neg_mul v w
  · exact mul_neg v w
  · rfl

theorem signed_div (s s' : Sign) (v w : ℚ) : signed s v / signed s' w = signed (s / s') (v / w) := by
  cases s <;> cases s'
  · exact neg_div_neg_eq v w
  · exact neg_div w v
  · exact div_neg v
  · rfl

theorem rankOf_signed (s : Sign) {v : ℚ} (hv : 0 < v) : rankOf (signed s v) = s.apply (positiveRankOf v) := by
  have hpositive : rankOf v = positiveRankOf v := if_pos hv
  cases s with
  | positive => exact hpositive
  | negative =>
    show rankOf (-v) = -positiveRankOf v
    rw [rankOf_neg, hpositive]

/-- The number for which what is unpacked stands, zero where it stands for none. --/
def exact : UnpackedFloat → ℚ
  | .finite s m e _ => signed s (m * (2 : ℚ) ^ e)
  | _ => 0

/-- The number for which a finite double stands. --/
def value (t : Seconds) : ℚ := exact t.unpacked

theorem magnitude_pos {m : ℕ} (h : 0 < m) (e : ℤ) : 0 < (m : ℚ) * (2 : ℚ) ^ e :=
  mul_pos (Nat.cast_pos.mpr h) (zpow_pos two_pos e)

theorem exact_neg (u : UnpackedFloat) : exact u.neg = -exact u := by
  cases u with
  | notANumber | infinity | zero => exact neg_zero.symm
  | finite s m e h =>
    cases s with
    | negative => exact (neg_neg _).symm
    | positive => rfl

/-- A double is rounded to itself. --/
theorem rankOf_exact {u : UnpackedFloat} (hu : Bounded u) (hf : u.isFinite = true) : rankOf (exact u) = place u := by
  cases u with
  | notANumber | infinity => cases hf
  | zero s => rfl
  | finite s m e h =>
    obtain ⟨⟨hbits, hleast, hfull⟩, hmost⟩ := hu
    have htarget : target m e = e := by
      have hlog : m.log2 < 53 := (Nat.log2_lt (Nat.ne_of_gt h)).mpr hbits
      rw [target_eq]
      rcases hfull with hfull | hfull
      · have := (Nat.le_log2 (Nat.ne_of_gt h)).mpr hfull
        omega
      · omega
    have hexponent : exponentOf (m * (2 : ℚ) ^ e) = e :=
      (target_eq_exponentOf (Nat.cast_pos.mpr h) le_rfl (lt_add_one _) (.inl h)).symm.trans htarget
    have hmantissa : mantissaOf (m * (2 : ℚ) ^ e) = m := by
      rw [mantissaOf, hexponent, mul_div_cancel_right₀ _ (zpow_pos two_pos e).ne', nearest_natCast]
    have hrank : positiveRankOf (m * (2 : ℚ) ^ e) = (e + 1074) * 2 ^ 53 + m := by
      rw [positiveRankOf, hexponent, hmantissa, placeAt, if_pos hbits, capped, if_pos (by omega)]
    rw [exact, rankOf_signed s (magnitude_pos h e), hrank]
    rfl

theorem rank_eq {t : Seconds} (h : t.isFinite = true) : t.rank = rankOf t.value :=
  (rankOf_exact t.unpacked_bounded h).symm

/-! ### Sums -/

/-- The rank of what is packed. --/
def packedRank (u : UnpackedFloat) : ℤ :=
  place (UnpackedFloat.unpack Format.binary64 (UnpackedFloat.pack Format.binary64 u))

theorem packedRank_of_bounded {u : UnpackedFloat} (hu : Bounded u) : packedRank u = place u :=
  congrArg place (unpack_pack_of_bounded hu)

theorem packedRank_round (s : Sign) {m : ℕ} (hm : 0 < m) (e : ℤ) :
    packedRank (round Format.binary64 s m e) = s.apply (positiveRankOf (m * (2 : ℚ) ^ e)) := by
  have hlong : 0 < m * 2 ^ (e - target m e).toNat := Nat.mul_pos hm (Nat.two_pow_pos _)
  have hlow : e - (e - target m e).toNat ≤ target (m * 2 ^ (e - target m e).toNat) (e - (e - target m e).toNat) := by
    rw [target_eq (m * _), log2_mul_two_pow hm, target_eq m e]
    omega
  have hsame : ((m * 2 ^ (e - target m e).toNat : ℕ) : ℚ) * (2 : ℚ) ^ (e - (e - target m e).toNat) = m * (2 : ℚ) ^ e := by
    rw [Nat.cast_mul, Nat.cast_pow, Nat.cast_ofNat, mul_assoc, ← zpow_natCast, ← zpow_add₀ two_ne_zero,
      add_sub_cancel]
  have hplace := place_rounded s (stands_exact _) (Nat.cast_pos.mpr hlong) (.inl hlong) hlow
  rw [hsame, ← Nat.shiftLeft_eq] at hplace
  exact hplace

theorem packedRank_normalize (m e : ℤ) (s : Sign) :
    packedRank (UnpackedFloat.normalize Format.binary64 m e s) = rankOf (m * (2 : ℚ) ^ e) := by
  unfold UnpackedFloat.normalize
  rcases Int.lt_trichotomy m 0 with hm | rfl | hm
  · have hpos : 0 < (-m).toNat := by omega
    have hcast : (((-m).toNat : ℕ) : ℚ) = -(m : ℚ) := by
      rw [← Int.cast_neg, ← Int.cast_natCast, Int.toNat_of_nonneg (by omega)]
    have hvalue : (m : ℚ) * (2 : ℚ) ^ e = signed .negative ((-m).toNat * (2 : ℚ) ^ e) := by
      show _ = -(((-m).toNat : ℚ) * (2 : ℚ) ^ e)
      rw [hcast, neg_mul, neg_neg]
    rw [Std.compare_eq_lt.mpr hm, hvalue, rankOf_signed _ (magnitude_pos hpos e)]
    exact packedRank_round .negative hpos e
  · rw [Std.compare_self, Int.cast_zero, zero_mul]
    exact packedRank_of_bounded (u := .zero s) trivial
  · have hpos : 0 < m.toNat := by omega
    have hcast : ((m.toNat : ℕ) : ℚ) = m := by
      rw [← Int.cast_natCast, Int.toNat_of_nonneg hm.le]
    rw [Std.compare_eq_gt.mpr hm, ← hcast]
    exact (packedRank_round .positive hpos e).trans (rankOf_signed .positive (magnitude_pos hpos e)).symm

theorem decreased_value (s : Sign) (m : ℕ) {e low : ℤ} (h : low ≤ e) :
    ((s.apply ((m <<< (e - low).toNat : ℕ) : ℤ) : ℤ) : ℚ) * (2 : ℚ) ^ low = signed s (m * (2 : ℚ) ^ e) := by
  have hmagnitude : ((m <<< (e - low).toNat : ℕ) : ℚ) * (2 : ℚ) ^ low = m * (2 : ℚ) ^ e := by
    have hexponent : ((e - low).toNat : ℤ) + low = e := by omega
    rw [Nat.shiftLeft_eq, Nat.cast_mul, Nat.cast_pow, Nat.cast_ofNat, mul_assoc, ← zpow_natCast,
      ← zpow_add₀ two_ne_zero, hexponent]
  cases s with
  | positive => exact hmagnitude
  | negative =>
    show ((-((m <<< (e - low).toNat : ℕ) : ℤ) : ℤ) : ℚ) * (2 : ℚ) ^ low = -(m * (2 : ℚ) ^ e)
    rw [Int.cast_neg, neg_mul, ← hmagnitude, Int.cast_natCast]

theorem packedRank_add {u v : UnpackedFloat} (hu : Bounded u) (hv : Bounded v) (hfu : u.isFinite = true)
    (hfv : v.isFinite = true) :
    packedRank (UnpackedFloat.add Format.binary64 u v) = rankOf (exact u + exact v) := by
  cases u with
  | notANumber | infinity => cases hfu
  | zero s =>
    cases v with
    | notANumber | infinity => cases hfv
    | zero s' =>
      have hsum : exact (.zero s) + exact (.zero s') = 0 := add_zero 0
      rw [hsum]
      cases s <;> cases s' <;> rfl
    | finite s' m' e' h' =>
      have hsum : exact (.zero s) + exact (.finite s' m' e' h') = exact (.finite s' m' e' h') := zero_add _
      rw [hsum, rankOf_exact hv hfv]
      exact packedRank_of_bounded hv
  | finite s m e h =>
    cases v with
    | notANumber | infinity => cases hfv
    | zero s' =>
      have hsum : exact (.finite s m e h) + exact (.zero s') = exact (.finite s m e h) := add_zero _
      rw [hsum, rankOf_exact hu hfu]
      exact packedRank_of_bounded hu
    | finite s' m' e' h' =>
      refine (packedRank_normalize _ _ _).trans (congrArg rankOf ?_)
      rw [Int.cast_add, add_mul]
      exact congrArg₂ (· + ·) (decreased_value s m (Int.min_le_left e e')) (decreased_value s' m' (Int.min_le_right e e'))

/-- A difference is the sum with the opposite. --/
theorem model_sub_eq (u v : UnpackedFloat) :
    UnpackedFloat.sub Format.binary64 u v = UnpackedFloat.add Format.binary64 u v.neg := by
  cases v with
  | notANumber | infinity | zero => cases u <;> rfl
  | finite s' m' e' h' =>
    cases u with
    | notANumber | infinity | zero => rfl
    | finite s m e h =>
      cases s' with
      | negative =>
        show UnpackedFloat.normalize _ (_ - -_) _ _ = UnpackedFloat.normalize _ (_ + _) _ _
        rw [Int.sub_neg]
        rfl
      | positive => rfl

variable {a b : Seconds}

theorem rank_add (ha : a.isFinite = true) (hb : b.isFinite = true) : (a + b).rank = rankOf (a.value + b.value) :=
  packedRank_add a.unpacked_bounded b.unpacked_bounded ha hb

theorem rank_sub (ha : a.isFinite = true) (hb : b.isFinite = true) : (a - b).rank = rankOf (a.value - b.value) := by
  have hbounded : Bounded b.unpacked.neg := by
    have := b.unpacked_bounded
    cases hu : b.unpacked <;> rw [hu] at this <;> exact this
  have hfinite : b.unpacked.neg.isFinite = true := by
    have hf : b.unpacked.isFinite = true := hb
    cases hu : b.unpacked <;> rw [hu] at hf <;> exact hf
  have hsum := packedRank_add a.unpacked_bounded hbounded ha hfinite
  rw [← model_sub_eq, exact_neg, ← sub_eq_add_neg] at hsum
  exact hsum

/-! ### Products -/

theorem packedRank_mul {u v : UnpackedFloat} (hu : Bounded u) (hv : Bounded v) (hfu : u.isFinite = true)
    (hfv : v.isFinite = true) :
    packedRank (UnpackedFloat.mul Format.binary64 u v) = rankOf (exact u * exact v) := by
  cases u with
  | notANumber | infinity => cases hfu
  | zero s =>
    have hproduct : exact (.zero s) * exact v = 0 := zero_mul _
    rw [hproduct]
    cases v with
    | notANumber | infinity => cases hfv
    | zero s' | finite s' => exact packedRank_of_bounded (u := .zero (s * s')) trivial
  | finite s m e h =>
    cases v with
    | notANumber | infinity => cases hfv
    | zero s' =>
      have hproduct : exact (.finite s m e h) * exact (.zero s') = 0 := mul_zero _
      rw [hproduct]
      exact packedRank_of_bounded (u := .zero (s * s')) trivial
    | finite s' m' e' h' =>
      have hpos : 0 < m * m' := Nat.mul_pos h h'
      have hlow : e + e' ≤ target (m * m') (e + e') := by
        have hlog : m.log2 ≤ (m * m').log2 :=
          (Nat.le_log2 (Nat.ne_of_gt hpos)).mpr
            (Nat.le_trans (Nat.log2_self_le (Nat.ne_of_gt h)) (Nat.le_mul_of_pos_right m h'))
        have hlog' : m'.log2 ≤ (m * m').log2 :=
          (Nat.le_log2 (Nat.ne_of_gt hpos)).mpr
            (Nat.le_trans (Nat.log2_self_le (Nat.ne_of_gt h')) (Nat.le_mul_of_pos_left m' h))
        rw [target_eq]
        rcases hu.1.full with hfull | hleast
        · have := (Nat.le_log2 (Nat.ne_of_gt h)).mpr hfull
          omega
        · rcases hv.1.full with hfull | hleast'
          · have := (Nat.le_log2 (Nat.ne_of_gt h')).mpr hfull
            omega
          · omega
      have hplace := place_rounded (s * s') (stands_exact _) (Nat.cast_pos.mpr hpos) (.inl hpos) hlow
      have hvalue : exact (.finite s m e h) * exact (.finite s' m' e' h') =
          signed (s * s') ((m * m' : ℕ) * (2 : ℚ) ^ (e + e')) := by
        rw [exact, exact, signed_mul, Nat.cast_mul, zpow_add₀ two_ne_zero, mul_mul_mul_comm]
      rw [hvalue, rankOf_signed _ (magnitude_pos hpos _)]
      exact hplace

theorem rank_mul (ha : a.isFinite = true) (hb : b.isFinite = true) : (a * b).rank = rankOf (a.value * b.value) :=
  packedRank_mul a.unpacked_bounded b.unpacked_bounded ha hb

/-! ### Quotients -/

/-- The quotient is taken long enough to be rounded, or at the least exponent. --/
theorem quotient_long {m m' k : ℕ} (h : 0 < m) (h' : 0 < m') (hk : 53 + m'.log2 ≤ m.log2 + k) :
    2 ^ 52 ≤ m * 2 ^ k / m' := by
  refine (Nat.le_div_iff_mul_le h').mpr ?_
  calc 2 ^ 52 * m' ≤ 2 ^ 52 * 2 ^ (m'.log2 + 1) := Nat.mul_le_mul_left _ (Nat.le_of_lt Nat.lt_log2_self)
    _ = 2 ^ (53 + m'.log2) := by rw [← Nat.pow_add, Nat.add_comm m'.log2, ← Nat.add_assoc]
    _ ≤ 2 ^ (m.log2 + k) := Nat.pow_le_pow_right (by decide) hk
    _ = 2 ^ m.log2 * 2 ^ k := Nat.pow_add ..
    _ ≤ m * 2 ^ k := Nat.mul_le_mul_right _ (Nat.log2_self_le (Nat.ne_of_gt h))

theorem packedRank_div {u : UnpackedFloat} {s' : Sign} {m' : ℕ} {e' : ℤ} {h' : 0 < m'} (hu : Bounded u)
    (hfu : u.isFinite = true) :
    packedRank (UnpackedFloat.div Format.binary64 u (.finite s' m' e' h')) =
      rankOf (exact u / exact (.finite s' m' e' h')) := by
  cases u with
  | notANumber | infinity => cases hfu
  | zero s =>
    have hquotient : exact (.zero s) / exact (.finite s' m' e' h') = 0 := zero_div _
    rw [hquotient]
    exact packedRank_of_bounded (u := .zero (s / s')) trivial
  | finite s m e h =>
    -- The exponent of the quotient, and how far the dividend is shifted for it.
    obtain ⟨t, ht⟩ : ∃ t, t = min (e - e') (max ((m.log2 + 1 + e) - (m'.log2 + 1 + e') - 53) (-1074)) := ⟨_, rfl⟩
    obtain ⟨k, hk⟩ : ∃ k, k = (e - e' - t).toNat := ⟨_, rfl⟩
    have hdiv : UnpackedFloat.div Format.binary64 (.finite s m e h) (.finite s' m' e' h') =
        roundWithAccuracy Format.binary64 (s / s') (m * 2 ^ k / m') t (accuracyOfFraction (m * 2 ^ k % m') m') := by
      rw [← Nat.shiftLeft_eq, hk, ht]
      rfl
    have hlog : m.log2 < 53 := (Nat.log2_lt (Nat.ne_of_gt h)).mpr hu.1.bits
    have hlong : 2 ^ 52 ≤ m * 2 ^ k / m' ∨ t ≤ -1074 := by
      by_cases hleast : t ≤ -1074
      · exact .inr hleast
      · exact .inl (quotient_long h h' (by omega))
    have hlow : t ≤ target (m * 2 ^ k / m') t := by
      rw [target_eq]
      rcases hlong with hlong | hleast
      · have := (Nat.le_log2 (by omega)).mpr hlong
        omega
      · omega
    have hpos : (0 : ℚ) < (m * 2 ^ k : ℕ) / m' :=
      div_pos (Nat.cast_pos.mpr (Nat.mul_pos h (Nat.two_pow_pos k))) (Nat.cast_pos.mpr h')
    have hvalue : exact (.finite s m e h) / exact (.finite s' m' e' h') =
        signed (s / s') (((m * 2 ^ k : ℕ) / m') * (2 : ℚ) ^ t) := by
      have hexponent : (k : ℤ) + t = e - e' := by omega
      rw [exact, exact, signed_div, mul_div_mul_comm, ← zpow_sub₀ two_ne_zero, ← hexponent, zpow_add₀ two_ne_zero,
        zpow_natCast, Nat.cast_mul, Nat.cast_pow, Nat.cast_ofNat]
      ring_nf
    rw [hvalue, rankOf_signed _ (mul_pos hpos (zpow_pos two_pos t)), hdiv]
    exact place_rounded _ (stands_fraction _ h') hpos (hlong.imp_left fun hlong => by omega) hlow

theorem unpacked_of_pos {t : Seconds} (hpos : 0.0 < t) (hf : t.isFinite = true) :
    ∃ m e hm, t.unpacked = .finite .positive m e hm := by
  rcases unpacked_of_nonneg (le_of_lt hpos) hf with ⟨s, hu⟩ | ⟨m, e, hm, hu, -⟩
  · have hrank := (lt_iff_rank.mp hpos).2.2
    rw [rank_zero, rank, hu] at hrank
    cases hrank
  · exact ⟨m, e, hm, hu⟩

theorem rank_div (ha : a.isFinite = true) (hb : b.isFinite = true) (hpos : 0.0 < b) :
    (a / b).rank = rankOf (a.value / b.value) := by
  show packedRank (UnpackedFloat.div Format.binary64 a.unpacked b.unpacked) = rankOf (exact a.unpacked / exact b.unpacked)
  obtain ⟨m, e, hm, hv⟩ := unpacked_of_pos hpos hb
  rw [hv]
  exact packedRank_div a.unpacked_bounded ha

/-! ### Order -/

theorem exact_eq_zero {u : UnpackedFloat} (hu : Bounded u) (h : place u = 0) : exact u = 0 := by
  cases u with
  | notANumber | infinity | zero => rfl
  | finite s m e hm =>
    obtain ⟨-, -, hsign⟩ := place_finite hu
    rw [h] at hsign
    cases s <;> exact absurd hsign (Int.lt_irrefl 0)

/-- Apart from zero, whose sign does not show, a place is that of one number only. --/
theorem eq_of_place {u v : UnpackedFloat} (hu : Bounded u) (hv : Bounded v) (hzero : place u ≠ 0)
    (h : place u = place v) : u = v := by
  cases u with
  | notANumber | zero => exact absurd rfl hzero
  | infinity s =>
    cases v with
    | notANumber | zero => exact absurd h hzero
    | infinity s' => cases s <;> cases s' <;> trivial
    | finite s' m' e' hm' =>
      obtain ⟨hlow, hhigh, -⟩ := place_finite hv
      cases s <;> simp only [place, Sign.apply] at h hlow hhigh <;> omega
  | finite s m e hm =>
    obtain ⟨hlow, hhigh, hsign⟩ := place_finite hu
    cases v with
    | notANumber | zero => exact absurd h hzero
    | infinity s' => cases s' <;> simp only [place, Sign.apply] at h hlow hhigh <;> omega
    | finite s' m' e' hm' =>
      obtain ⟨-, -, hsign'⟩ := place_finite hv
      have hbits := hu.1.bits
      have hbits' := hv.1.bits
      cases s <;> cases s' <;> simp only [place, Sign.apply] at h hsign hsign'
      · obtain ⟨rfl, rfl⟩ : e = e' ∧ m = m' := by omega
        rfl
      · omega
      · omega
      · obtain ⟨rfl, rfl⟩ : e = e' ∧ m = m' := by omega
        rfl

theorem exact_of_place {u v : UnpackedFloat} (hu : Bounded u) (hv : Bounded v) (h : place u = place v) :
    exact u = exact v := by
  by_cases hzero : place u = 0
  · rw [exact_eq_zero hu hzero, exact_eq_zero hv (h.symm.trans hzero)]
  · rw [eq_of_place hu hv hzero h]

theorem unpacked_inj (h : a.unpacked = b.unpacked) : a = b := by
  have hbits := (unpack_inj_of_valid a.toModel.valid b.toModel.valid).mp h
  rcases a with ⟨⟨⟨bits⟩, valid⟩⟩
  rcases b with ⟨⟨⟨bits'⟩, valid'⟩⟩
  obtain rfl : bits = bits' := hbits
  rfl

theorem eq_of_rank (hzero : a.rank ≠ 0) (h : a.rank = b.rank) : a = b :=
  unpacked_inj (eq_of_place a.unpacked_bounded b.unpacked_bounded hzero h)

/-- Finite times are in the order of the numbers for which they stand. --/
theorem le_iff_value (ha : a.isFinite = true) (hb : b.isFinite = true) : a ≤ b ↔ a.value ≤ b.value := by
  rw [le_iff_rank]
  constructor
  · rintro ⟨-, -, hle⟩
    by_contra hlt
    have hge : b.rank ≤ a.rank := by
      rw [rank_eq ha, rank_eq hb]
      exact rankOf_mono (not_le.mp hlt).le
    have hsame := exact_of_place a.unpacked_bounded b.unpacked_bounded (Int.le_antisymm hle hge)
    exact hlt hsame.le
  · intro hle
    refine ⟨isNaN_of_isFinite ha, isNaN_of_isFinite hb, ?_⟩
    rw [rank_eq ha, rank_eq hb]
    exact rankOf_mono hle

theorem value_nonneg (h : 0.0 ≤ a) (hf : a.isFinite = true) : 0 ≤ a.value := (le_iff_value isFinite_zero hf).mp h

theorem value_pos (h : 0.0 < a) (hf : a.isFinite = true) : 0 < a.value :=
  not_le.mp fun hle => not_le_of_lt h ((le_iff_value hf isFinite_zero).mpr hle)

theorem rank_bounds (t : Seconds) : -2 ^ 64 ≤ t.rank ∧ t.rank ≤ 2 ^ 64 := by
  have hbounded := t.unpacked_bounded
  unfold rank
  cases hu : t.unpacked with
  | notANumber => exact ⟨by decide, by decide⟩
  | zero s | infinity s => cases s <;> exact ⟨by decide, by decide⟩
  | finite s m e h =>
    rw [hu] at hbounded
    obtain ⟨hlow, hhigh, -⟩ := place_finite hbounded
    exact ⟨hlow.le, hhigh.le⟩

theorem rank_of_infinite {t : Seconds} (hnum : t.isNaN = false) (h : t.isFinite = false) :
    t.rank = -2 ^ 64 ∨ t.rank = 2 ^ 64 := by
  have hbounds := rank_bounds t
  by_contra hinside
  have hfinite : t.isFinite = true := isFinite_iff.mpr ⟨hnum, by omega, by omega⟩
  rw [h] at hfinite
  cases hfinite

theorem unpacked_of_infinite {t : Seconds} (hnum : t.isNaN = false) (h : t.isFinite = false) :
    ∃ s, t.unpacked = .infinity s := by
  replace hnum : t.unpacked.isNaN = false := hnum
  replace h : t.unpacked.isFinite = false := h
  cases hu : t.unpacked with
  | infinity s => exact ⟨s, rfl⟩
  | notANumber =>
    rw [hu] at hnum
    cases hnum
  | zero | finite =>
    rw [hu] at h
    cases h

/-- A map that keeps the order of finite times and leaves the infinite ones in their places keeps all order. --/
theorem map_le_map {f : Seconds → Seconds} (hnum : ∀ t : Seconds, t.isNaN = false → (f t).isNaN = false)
    (hfinite : ∀ s t : Seconds, s.isFinite = true → t.isFinite = true → s.value ≤ t.value → (f s).rank ≤ (f t).rank)
    (hinfinite : ∀ t : Seconds, t.isNaN = false → t.isFinite = false → (f t).rank = t.rank) (h : a ≤ b) : f a ≤ f b := by
  obtain ⟨ha, hb, hle⟩ := le_iff_rank.mp h
  refine le_iff_rank.mpr ⟨hnum a ha, hnum b hb, ?_⟩
  have hfa := rank_bounds (f a)
  have hfb := rank_bounds (f b)
  cases hfina : a.isFinite <;> cases hfinb : b.isFinite
  · rw [hinfinite a ha hfina, hinfinite b hb hfinb]
    exact hle
  · have hmost := (isFinite_iff.mp hfinb).2.2
    have hedge := rank_of_infinite ha hfina
    rw [hinfinite a ha hfina]
    omega
  · have hleast := (isFinite_iff.mp hfina).2.1
    have hedge := rank_of_infinite hb hfinb
    rw [hinfinite b hb hfinb]
    omega
  · exact hfinite a b hfina hfinb ((le_iff_value hfina hfinb).mp h)

variable {c : Seconds}

theorem sub_le_sub_right (h : a ≤ b) (ha : a.isFinite = true) (hb : b.isFinite = true) (hc : c.isFinite = true) :
    a - c ≤ b - c := by
  refine le_iff_rank.mpr ⟨sub_isNaN ha hc, sub_isNaN hb hc, ?_⟩
  rw [rank_sub ha hc, rank_sub hb hc]
  exact rankOf_mono (sub_le_sub ((le_iff_value ha hb).mp h) le_rfl)

theorem add_le_add_right (h : a ≤ b) (hc : c.isFinite = true) : a + c ≤ b + c := by
  refine map_le_map (f := (· + c)) (fun t ht => add_isNaN ht hc) (fun s t hs ht hle => ?_) (fun t hnum ht => ?_) h
  · rw [rank_add hs hc, rank_add ht hc]
    exact rankOf_mono (add_le_add hle le_rfl)
  · obtain ⟨s, hu⟩ := unpacked_of_infinite hnum ht
    show packedRank (UnpackedFloat.add Format.binary64 t.unpacked c.unpacked) = place t.unpacked
    rcases unpacked_of_finite hc with ⟨s', hv⟩ | ⟨s', m', e', hm', hv⟩ <;> rw [hu, hv] <;>
      exact packedRank_of_bounded (u := .infinity s) trivial

theorem div_le_div_right (h : a ≤ b) (hpos : 0.0 < c) (hc : c.isFinite = true) : a / c ≤ b / c := by
  refine map_le_map (f := (· / c)) (fun t ht => div_isNaN ht hpos hc) (fun s t hs ht hle => ?_) (fun t hnum ht => ?_) h
  · rw [rank_div hs hc hpos, rank_div ht hc hpos]
    exact rankOf_mono (div_le_div_of_nonneg_right hle (value_pos hpos hc).le)
  · obtain ⟨s, hu⟩ := unpacked_of_infinite hnum ht
    show packedRank (UnpackedFloat.div Format.binary64 t.unpacked c.unpacked) = place t.unpacked
    obtain ⟨m', e', hm', hv⟩ := unpacked_of_pos hpos hc
    rw [hu, hv]
    cases s with
    | negative => exact packedRank_of_bounded (u := .infinity .negative) trivial
    | positive => exact packedRank_of_bounded (u := .infinity .positive) trivial

theorem mul_le_mul_right (h : a ≤ b) (ha : a.isFinite = true) (hb : b.isFinite = true) (hnonneg : 0.0 ≤ c)
    (hc : c.isFinite = true) : (a * c).rank ≤ (b * c).rank := by
  rw [rank_mul ha hc, rank_mul hb hc]
  exact rankOf_mono (mul_le_mul_of_nonneg_right ((le_iff_value ha hb).mp h) (value_nonneg hnonneg hc))

end Seconds
end Cutroom
