import Cutroom.Proofs.Timeline.Ranked

/-! How a number is rounded to a double: to no less than a double that it is not less than (`Seconds.Rounds.le`), and
    to no more than one that it is not more than (`Seconds.Rounds.ge`). So adding a length makes no time earlier
    (`Seconds.le_add`), and a share of a length is within it (`Seconds.share_le`). -/

namespace Cutroom
namespace Seconds
open Float.Model Float.Model.UnpackedFloat

/-! ### Shifting -/

/-- A mantissa without the bits that it has lost. --/
def shifted (m n : Nat) : ExtendedMantissa := (ExtendedMantissa.mk m false false) >>> n

theorem shifted_mantissa (m n : Nat) : (shifted m n).mantissa = m / 2 ^ n := by
  induction n with
  | zero => exact (Nat.div_one m).symm
  | succ n ih =>
    show (shifted m n).mantissa / 2 = _
    rw [ih, Nat.div_div_eq_div_mul, Nat.pow_succ]

/-- Where bits are lost, the number was no multiple. --/
theorem shifted_lost {m n : Nat} (h : 2 ^ n ∣ m) :
    (shifted m n).roundBit = false ∧ (shifted m n).stickyBit = false := by
  induction n with
  | zero => exact ⟨rfl, rfl⟩
  | succ n ih =>
    have hn : 2 ^ n ∣ m := Nat.dvd_trans ⟨2, Nat.pow_succ ..⟩ h
    obtain ⟨hround, hsticky⟩ := ih hn
    have hbit : m / 2 ^ n % 2 = 0 := by
      obtain ⟨k, rfl⟩ := h
      rw [Nat.pow_succ, Nat.mul_assoc, Nat.mul_div_cancel_left _ (Nat.two_pow_pos n)]
      exact Nat.mul_mod_right 2 k
    refine ⟨?_, ?_⟩
    · show ((shifted m n).mantissa % 2 != 0) = false
      rw [shifted_mantissa, hbit]
      rfl
    · show ((shifted m n).roundBit || (shifted m n).stickyBit) = false
      rw [hround, hsticky]
      rfl

theorem roundedMantissa_bounds (em : ExtendedMantissa) :
    em.mantissa ≤ em.roundedMantissa ∧ em.roundedMantissa ≤ em.mantissa + 1 := by
  obtain ⟨m, round, sticky⟩ := em
  cases round <;> cases sticky <;>
    simp only [ExtendedMantissa.roundedMantissa, ExtendedMantissa.accuracy, Accuracy.roundToNearestEven] <;> omega

theorem roundedMantissa_exact {em : ExtendedMantissa} (hround : em.roundBit = false) (hsticky : em.stickyBit = false) :
    em.roundedMantissa = em.mantissa := by
  obtain ⟨m, round, sticky⟩ := em
  cases hround
  cases hsticky
  rfl

theorem le_rounded {m n bound : Nat} (h : bound * 2 ^ n ≤ m) : bound ≤ (shifted m n).roundedMantissa := by
  refine Nat.le_trans ?_ (roundedMantissa_bounds _).1
  rw [shifted_mantissa]
  exact (Nat.le_div_iff_mul_le (Nat.two_pow_pos n)).mpr h

theorem rounded_le {m n bound : Nat} (h : m ≤ bound * 2 ^ n) : (shifted m n).roundedMantissa ≤ bound := by
  by_cases hdvd : 2 ^ n ∣ m
  · obtain ⟨hround, hsticky⟩ := shifted_lost hdvd
    rw [roundedMantissa_exact hround hsticky, shifted_mantissa]
    exact Nat.div_le_of_le_mul (by rwa [Nat.mul_comm])
  · have hlt : m / 2 ^ n < bound := by
      refine (Nat.div_lt_iff_lt_mul (Nat.two_pow_pos n)).mpr (Nat.lt_of_le_of_ne h ?_)
      rintro rfl
      exact hdvd ⟨bound, Nat.mul_comm _ _⟩
    have hup := (roundedMantissa_bounds (shifted m n)).2
    rw [shifted_mantissa] at hup
    omega

/-! ### Rounding -/

/-- The exponent to which a number is rounded. --/
def target (m : Nat) (e : Int) : Int := Format.binary64.targetExponent (totalExponent m e)

theorem target_eq (m : Nat) (e : Int) : target m e = max (m.log2 + 1 + e - 53) (-1074) := rfl

/-- The mantissa after rounding. --/
def rounded (m : Nat) (e : Int) : Nat := (shifted m (target m e - e).toNat).roundedMantissa

theorem shiftToTargetExponent_eq {m : Nat} {e : Int} (h : e ≤ target m e) :
    shiftToTargetExponent Format.binary64 m e .exact = (shifted m (target m e - e).toNat, target m e) := by
  have hexponent : e + ((target m e - e).toNat : Int) = target m e := by omega
  exact congrArg (Prod.mk _) hexponent

/-- What fits needs no more rounding. --/
theorem shiftToTargetExponent_small {m : Nat} {e : Int} (hbits : m < 2 ^ 53) (hleast : -1074 ≤ e) :
    shiftToTargetExponent Format.binary64 m e .exact = (ExtendedMantissa.mk m false false, e) := by
  have hlog : m.log2 < 53 := by
    by_cases hm : m = 0
    · rw [hm]
      decide
    · exact (Nat.log2_lt hm).mpr hbits
  have hshift : (target m e - e).toNat = 0 := by
    rw [target_eq]
    omega
  have hexponent : e + ((target m e - e).toNat : Int) = e := by omega
  show (shifted m (target m e - e).toNat, e + ((target m e - e).toNat : Int)) = _
  rw [hexponent, hshift]
  rfl

theorem shiftToTargetExponent_carry {e : Int} (hleast : -1074 ≤ e) :
    shiftToTargetExponent Format.binary64 (2 ^ 53) e .exact = (ExtendedMantissa.mk (2 ^ 52) false false, e + 1) := by
  have htarget : target (2 ^ 53) e = e + 1 := by
    rw [target_eq, Nat.log2_two_pow]
    omega
  have hshift : (target (2 ^ 53) e - e).toNat = 1 := by omega
  show (shifted (2 ^ 53) (target (2 ^ 53) e - e).toNat, e + ((target (2 ^ 53) e - e).toNat : Int)) = _
  rw [hshift]
  rfl

theorem rounded_le_carry {m : Nat} {e : Int} (h : e ≤ target m e) : rounded m e ≤ 2 ^ 53 := by
  refine rounded_le ?_
  have hlog : m < 2 ^ (m.log2 + 1) := Nat.lt_log2_self
  rw [← Nat.pow_add]
  refine Nat.le_trans (Nat.le_of_lt hlog) (Nat.pow_le_pow_right (by decide) ?_)
  rw [target_eq] at h ⊢
  omega

/-- What a number is rounded to: its exponent is the target, or one more where the mantissa takes a bit too many. --/
inductive Rounds (s : Sign) (m : Nat) (e : Int) : UnpackedFloat → Prop where
  | zero : rounded m e = 0 → Rounds s m e (.zero s)
  | kept (h : 0 < rounded m e) : rounded m e < 2 ^ 53 → Rounds s m e (.finite s (rounded m e) (target m e) h)
  | carried (h : 0 < 2 ^ 52) : rounded m e = 2 ^ 53 → Rounds s m e (.finite s (2 ^ 52) (target m e + 1) h)

theorem roundWithAccuracy_rounds (s : Sign) {m : Nat} {e : Int} (h : e ≤ target m e) :
    Rounds s m e (roundWithAccuracy Format.binary64 s m e .exact) := by
  have hleast : -1074 ≤ target m e := by
    rw [target_eq]
    omega
  have hround : ∀ p, shiftToTargetExponent Format.binary64 (rounded m e) (target m e) .exact = p →
      roundWithAccuracy Format.binary64 s m e .exact =
        if hz : p.1.mantissa = 0 then .zero s else .finite s p.1.mantissa p.2 (Nat.pos_of_ne_zero hz) := by
    rintro p rfl
    unfold roundWithAccuracy
    rw [shiftToTargetExponent_eq h]
    rfl
  by_cases hsmall : rounded m e < 2 ^ 53
  · rw [hround _ (shiftToTargetExponent_small hsmall hleast)]
    split
    · rename_i hz
      exact .zero hz
    · rename_i hz
      exact .kept (Nat.pos_of_ne_zero hz) hsmall
  · -- A power of two has no bits to lose when it is shifted once more.
    have hcarry : rounded m e = 2 ^ 53 := Nat.le_antisymm (rounded_le_carry h) (Nat.le_of_not_lt hsmall)
    have hlast := shiftToTargetExponent_carry hleast
    rw [← hcarry] at hlast
    rw [hround _ hlast]
    exact .carried _ hcarry

theorem rounded_full {m : Nat} {e : Int} (hm : 0 < m) (h : e ≤ target m e) (ht : -1074 < target m e) :
    2 ^ 52 ≤ rounded m e := by
  refine le_rounded ?_
  rw [← Nat.pow_add]
  have hlog : 2 ^ m.log2 ≤ m := Nat.log2_self_le (Nat.ne_of_gt hm)
  refine Nat.le_trans (Nat.pow_le_pow_right (by decide) ?_) hlog
  rw [target_eq] at h ht ⊢
  omega

theorem Rounds.canonical {s s' : Sign} {m r : Nat} {e t : Int} {hr : 0 < r} (h : Rounds s m e (.finite s' r t hr))
    (hm : 0 < m) (he : e ≤ target m e) : Canonical r t := by
  have hleast : -1074 ≤ target m e := by
    rw [target_eq]
    omega
  cases h with
  | kept _ hsmall =>
    refine ⟨hsmall, hleast, ?_⟩
    by_cases ht : -1074 < target m e
    · exact .inl (rounded_full hm he ht)
    · exact .inr (by omega)
  | carried => exact ⟨by decide, by omega, .inl (Nat.le_refl _)⟩

theorem log2_le_of_mul_le {m M k : Nat} (hM : 0 < M) (h : M * 2 ^ k ≤ m) : M.log2 + k ≤ m.log2 := by
  have hm : m ≠ 0 := Nat.ne_of_gt (Nat.lt_of_lt_of_le (Nat.mul_pos hM (Nat.two_pow_pos k)) h)
  refine (Nat.le_log2 hm).mpr (Nat.le_trans ?_ h)
  rw [Nat.pow_add]
  exact Nat.mul_le_mul_right _ (Nat.log2_self_le (Nat.ne_of_gt hM))

theorem log2_le_of_le_mul {m M k : Nat} (hm : 0 < m) (h : m ≤ M * 2 ^ k) : m.log2 ≤ M.log2 + k := by
  refine Nat.le_of_lt_succ ((Nat.log2_lt (Nat.ne_of_gt hm)).mpr (Nat.lt_of_le_of_lt h ?_))
  rw [Nat.succ_eq_add_one, Nat.add_right_comm, Nat.pow_add]
  exact Nat.mul_lt_mul_of_pos_right Nat.lt_log2_self (Nat.two_pow_pos k)

/-- The target of a number that is not less than a double. --/
theorem le_target {m M : Nat} {e E : Int} (hc : Canonical M E) (hM : 0 < M) (he : e ≤ E)
    (h : M * 2 ^ (E - e).toNat ≤ m) : E ≤ target m e := by
  have hlog := log2_le_of_mul_le hM h
  rw [target_eq]
  rcases hc.full with hfull | hleast
  · have hbits := (Nat.le_log2 (Nat.ne_of_gt hM)).mpr hfull
    omega
  · omega

theorem target_le {m M : Nat} {e E : Int} (hc : Canonical M E) (hm : 0 < m) (hM : 0 < M) (he : e ≤ E)
    (h : m ≤ M * 2 ^ (E - e).toNat) : target m e ≤ E := by
  have hlog := log2_le_of_le_mul hm h
  have hbits := (Nat.log2_lt (Nat.ne_of_gt hM)).mpr hc.bits
  have hleast := hc.least
  rw [target_eq]
  omega

/-- A number that is not less than a double is rounded to no less. --/
theorem Rounds.le {s : Sign} {m M : Nat} {e E : Int} {u : UnpackedFloat} (h : Rounds s m e u) (hc : Canonical M E)
    (hM : 0 < M) (he : e ≤ E) (hle : M * 2 ^ (E - e).toNat ≤ m) :
    ∃ r t hr, u = .finite s r t hr ∧ (E < t ∨ E = t ∧ M ≤ r) := by
  have hm : 0 < m := Nat.lt_of_lt_of_le (Nat.mul_pos hM (Nat.two_pow_pos _)) hle
  have htarget := le_target hc hM he hle
  have hleast := hc.least
  have hrounded : E < target m e ∧ 2 ^ 52 ≤ rounded m e ∨ E = target m e ∧ M ≤ rounded m e := by
    by_cases hE : E = target m e
    · refine .inr ⟨hE, le_rounded ?_⟩
      rw [← hE]
      exact hle
    · exact .inl ⟨by omega, rounded_full hm (by omega) (by omega)⟩
  cases h with
  | zero hz => omega
  | kept hr hsmall =>
    refine ⟨_, _, hr, rfl, ?_⟩
    rcases hrounded with ⟨hE, -⟩ | ⟨hE, hr⟩
    · exact .inl hE
    · exact .inr ⟨hE, hr⟩
  | carried hr => exact ⟨_, _, hr, rfl, .inl (by omega)⟩

/-- A number that is not greater than a double is rounded to no greater one. --/
theorem Rounds.ge {s : Sign} {m M : Nat} {e E : Int} {u : UnpackedFloat} (h : Rounds s m e u) (hc : Canonical M E)
    (hm : 0 < m) (hM : 0 < M) (he : e ≤ E) (hle : m ≤ M * 2 ^ (E - e).toNat) :
    u = .zero s ∨ ∃ r t hr, u = .finite s r t hr ∧ (t < E ∨ t = E ∧ r ≤ M) := by
  have htarget := target_le hc hm hM he hle
  have hbits := hc.bits
  have hfull := hc.full
  have hrounded : E = target m e → rounded m e ≤ M := by
    intro hE
    refine rounded_le ?_
    rw [← hE]
    exact hle
  have hleast : -1074 ≤ target m e := by
    rw [target_eq]
    omega
  cases h with
  | zero => exact .inl rfl
  | kept hr hsmall =>
    refine .inr ⟨_, _, hr, rfl, ?_⟩
    by_cases hE : E = target m e
    · exact .inr ⟨hE.symm, hrounded hE⟩
    · exact .inl (by omega)
  | carried hr hcarry =>
    refine .inr ⟨_, _, hr, rfl, ?_⟩
    by_cases hE : E = target m e
    · have := hrounded hE
      omega
    · omega

/-! ### Sums -/

theorem unpacked_add (a b : Seconds) : (a + b).unpacked =
    UnpackedFloat.unpack Format.binary64 (UnpackedFloat.pack Format.binary64
      (UnpackedFloat.add Format.binary64 a.unpacked b.unpacked)) := rfl

theorem unpacked_mul (a b : Seconds) : (a * b).unpacked =
    UnpackedFloat.unpack Format.binary64 (UnpackedFloat.pack Format.binary64
      (UnpackedFloat.mul Format.binary64 a.unpacked b.unpacked)) := rfl

theorem unpack_pack_of_bounded {u : UnpackedFloat} (h : Bounded u) :
    UnpackedFloat.unpack Format.binary64 (UnpackedFloat.pack Format.binary64 u) = u := by
  cases u with
  | notANumber => rfl
  | infinity s => cases s <;> rfl
  | zero s => cases s <;> rfl
  | finite s m e hm => rw [unpack_pack h.1, if_pos h.2]

theorem log2_mul_two_pow {m : Nat} (hm : 0 < m) (k : Nat) : (m * 2 ^ k).log2 = m.log2 + k :=
  Nat.le_antisymm (log2_le_of_le_mul (Nat.mul_pos hm (Nat.two_pow_pos k)) (Nat.le_refl _))
    (log2_le_of_mul_le hm (Nat.le_refl _))

/-- Before a number is rounded, its mantissa is made long enough. --/
theorem round_rounds (s : Sign) {m : Nat} (hm : 0 < m) (e : Int) :
    ∃ k : Nat, e - k ≤ target (m * 2 ^ k) (e - k) ∧ Rounds s (m * 2 ^ k) (e - k) (round Format.binary64 s m e) := by
  have htarget : target (m * 2 ^ (e - target m e).toNat) (e - (e - target m e).toNat) = target m e := by
    rw [target_eq _ (e - _), log2_mul_two_pow hm, target_eq m e]
    omega
  have hlow : e - (e - target m e).toNat ≤ target (m * 2 ^ (e - target m e).toNat) (e - (e - target m e).toNat) := by
    rw [htarget]
    omega
  refine ⟨(e - target m e).toNat, hlow, ?_⟩
  have hround := roundWithAccuracy_rounds s hlow
  rw [← Nat.shiftLeft_eq] at hround ⊢
  exact hround

/-- A number that is not less than a double is rounded to no earlier place, whether or not it is too large. --/
theorem place_le_round {m M : Nat} {e E : Int} (hM : 0 < M) (hc : Canonical M E) (hE : E ≤ 971) (he : e ≤ E)
    (hle : M * 2 ^ (E - e).toNat ≤ m) :
    place (.finite .positive M E hM) ≤
      place (UnpackedFloat.unpack Format.binary64 (UnpackedFloat.pack Format.binary64
        (round Format.binary64 .positive m e))) := by
  have hm : 0 < m := Nat.lt_of_lt_of_le (Nat.mul_pos hM (Nat.two_pow_pos _)) hle
  obtain ⟨k, hlow, hrounds⟩ := round_rounds .positive hm e
  have hshift : (E - (e - k)).toNat = (E - e).toNat + k := by omega
  have hlong : M * 2 ^ (E - (e - k)).toNat ≤ m * 2 ^ k := by
    rw [hshift, Nat.pow_add, ← Nat.mul_assoc]
    exact Nat.mul_le_mul_right _ hle
  obtain ⟨r, t, hr, heq, hlex⟩ := hrounds.le hc hM (by omega) hlong
  rw [heq] at hrounds ⊢
  have hcanonical := hrounds.canonical (Nat.mul_pos hm (Nat.two_pow_pos k)) hlow
  have hbits := hc.bits
  rw [unpack_pack hcanonical]
  split
  · show (E + 1074) * 2 ^ 53 + (M : Int) ≤ (t + 1074) * 2 ^ 53 + r
    omega
  · show (E + 1074) * 2 ^ 53 + (M : Int) ≤ 2 ^ 64
    omega

theorem unpacked_of_finite {t : Seconds} (h : t.isFinite = true) :
    (∃ s, t.unpacked = .zero s) ∨ ∃ s m e hm, t.unpacked = .finite s m e hm := by
  have hfinite : t.unpacked.isFinite = true := h
  cases hu : t.unpacked with
  | notANumber | infinity =>
    rw [hu] at hfinite
    cases hfinite
  | zero s => exact .inl ⟨s, rfl⟩
  | finite s m e hm => exact .inr ⟨s, m, e, hm, rfl⟩

/-- A finite time that is not before zero is a zero or a positive number. --/
theorem unpacked_of_nonneg {t : Seconds} (h : 0.0 ≤ t) (hf : t.isFinite = true) :
    (∃ s, t.unpacked = .zero s) ∨ ∃ m e hm, t.unpacked = .finite .positive m e hm ∧ Canonical m e ∧ e ≤ 971 := by
  refine (unpacked_of_finite hf).imp_right fun hnonzero => ?_
  obtain ⟨s, m, e, hm, hu⟩ := hnonzero
  have hbounded := t.unpacked_bounded
  rw [hu] at hbounded
  cases s with
  | positive => exact ⟨m, e, hm, hu, hbounded⟩
  | negative =>
    obtain ⟨-, -, hneg⟩ := place_finite hbounded
    have hrank := (le_iff_rank.mp h).2.2
    rw [rank_zero, rank, hu] at hrank
    exact absurd hrank (Int.not_le.mpr hneg)

theorem roundWithAccuracy_isNaN (s : Sign) (m : Nat) (e : Int) (accuracy : Accuracy) :
    (roundWithAccuracy Format.binary64 s m e accuracy).isNaN = false := by
  unfold roundWithAccuracy
  dsimp only
  split <;> rfl

theorem normalize_isNaN (m e : Int) (s : Sign) : (UnpackedFloat.normalize Format.binary64 m e s).isNaN = false := by
  unfold UnpackedFloat.normalize
  split
  · exact roundWithAccuracy_isNaN ..
  · rfl
  · exact roundWithAccuracy_isNaN ..

theorem normalize_pos {m : Nat} (hm : 0 < m) (e : Int) (s : Sign) :
    UnpackedFloat.normalize Format.binary64 m e s = round Format.binary64 .positive m e := by
  have hcompare : compare (m : Int) 0 = .gt := Std.compare_eq_gt.mpr (Int.natCast_pos.mpr hm)
  rw [UnpackedFloat.normalize, hcompare, Int.toNat_natCast]

/-- Adding a length makes no time earlier. --/
theorem le_add {a b : Seconds} (ha : 0.0 ≤ a) (hb : 0.0 ≤ b) (hfa : a.isFinite = true) (hfb : b.isFinite = true) :
    a ≤ a + b := by
  suffices key : (a + b).unpacked.isNaN = false ∧ place a.unpacked ≤ place (a + b).unpacked from
    le_iff_rank.mpr ⟨isNaN_of_isFinite hfa, key⟩
  rw [unpacked_add]
  rcases unpacked_of_nonneg ha hfa with ⟨s, hu⟩ | ⟨m, e, hm, hu, hc, he⟩
  · rcases unpacked_of_nonneg hb hfb with ⟨s', hv⟩ | ⟨m', e', hm', hv, hc', he'⟩
    · rw [hu, hv]
      cases s <;> cases s' <;> exact ⟨rfl, Int.le_refl 0⟩
    · have hsum : UnpackedFloat.add Format.binary64 (.zero s) (.finite .positive m' e' hm') =
          .finite .positive m' e' hm' := rfl
      have hleast := hc'.least
      rw [hu, hv, hsum, unpack_pack hc', if_pos he']
      refine ⟨rfl, ?_⟩
      show (0 : Int) ≤ (e' + 1074) * 2 ^ 53 + m'
      omega
  · rcases unpacked_of_nonneg hb hfb with ⟨s', hv⟩ | ⟨m', e', hm', hv, hc', he'⟩
    · have hsum : UnpackedFloat.add Format.binary64 (.finite .positive m e hm) (.zero s') =
          .finite .positive m e hm := rfl
      rw [hu, hv, hsum, unpack_pack hc, if_pos he]
      exact ⟨rfl, Int.le_refl _⟩
    · have hsum : UnpackedFloat.add Format.binary64 (.finite .positive m e hm) (.finite .positive m' e' hm') =
          UnpackedFloat.normalize Format.binary64
            ((m <<< (e - min e e').toNat + m' <<< (e' - min e e').toNat : Nat) : Int) (min e e') .positive := rfl
      have hle : m * 2 ^ (e - min e e').toNat ≤ m <<< (e - min e e').toNat + m' <<< (e' - min e e').toNat := by
        rw [Nat.shiftLeft_eq]
        exact Nat.le_add_right _ _
      rw [hu, hv, hsum, isNaN_pack]
      refine ⟨normalize_isNaN .., ?_⟩
      rw [normalize_pos (Nat.lt_of_lt_of_le (Nat.mul_pos hm (Nat.two_pow_pos _)) hle)]
      exact place_le_round hm hc he (Int.min_le_left e e') hle

/-! ### Shares -/

theorem rank_one : rank 1.0 = (-52 + 1074) * 2 ^ 53 + 2 ^ 52 := by decide

/-- The exact product of two doubles is not so long that its exponent would have to fall. --/
theorem le_target_mul {m m' : Nat} {e e' : Int} (hm : 0 < m) (hm' : 0 < m') (hc' : Canonical m' e') (he : e ≤ 0) :
    e + e' ≤ target (m * m') (e + e') := by
  have hlog : m'.log2 ≤ (m * m').log2 := by
    refine (Nat.le_log2 (Nat.ne_of_gt (Nat.mul_pos hm hm'))).mpr ?_
    exact Nat.le_trans (Nat.log2_self_le (Nat.ne_of_gt hm')) (Nat.le_mul_of_pos_left _ hm)
  rw [target_eq]
  rcases hc'.full with hfull | hleast
  · have hbits := (Nat.le_log2 (Nat.ne_of_gt hm')).mpr hfull
    omega
  · omega

/-- A mantissa of a number that is no more than one. --/
theorem mantissa_le_of_share {m : Nat} {e : Int} (hc : Canonical m e)
    (hone : (e + 1074) * 2 ^ 53 + (m : Int) ≤ (-52 + 1074) * 2 ^ 53 + 2 ^ 52) : m ≤ 2 ^ (-e).toNat := by
  have hbits := hc.bits
  by_cases hsmall : e ≤ -53
  · exact Nat.le_trans (Nat.le_of_lt hbits) (Nat.pow_le_pow_right (by decide) (by omega))
  · have hshift : (-e).toNat = 52 := by omega
    rw [hshift]
    omega

/-- The product with a number that is no more than one is rounded to no later place. --/
theorem place_share {m m' : Nat} {e e' : Int} (hm : 0 < m) (hm' : 0 < m') (hc : Canonical m e) (hc' : Canonical m' e')
    (he' : e' ≤ 971) (hone : (e + 1074) * 2 ^ 53 + (m : Int) ≤ (-52 + 1074) * 2 ^ 53 + 2 ^ 52) {u : UnpackedFloat}
    (hu : u = UnpackedFloat.unpack Format.binary64 (UnpackedFloat.pack Format.binary64
      (roundWithAccuracy Format.binary64 .positive (m * m') (e + e') .exact))) :
    u.isNaN = false ∧ 0 ≤ place u ∧ place u ≤ place (.finite .positive m' e' hm') := by
  have hle : m * m' ≤ m' * 2 ^ (e' - (e + e')).toNat := by
    have hshift : (e' - (e + e')).toNat = (-e).toNat := by omega
    rw [hshift, Nat.mul_comm m]
    exact Nat.mul_le_mul_left _ (mantissa_le_of_share hc hone)
  have hleast' := hc'.least
  have hlow := le_target_mul hm hm' hc' (by omega : e ≤ 0)
  have hrounds := roundWithAccuracy_rounds .positive hlow
  rw [hu]
  rcases hrounds.ge hc' (Nat.mul_pos hm hm') hm' (by omega) hle with hz | ⟨r, t, hr, heq, hlex⟩
  · rw [hz, @unpack_pack_of_bounded (.zero .positive) trivial]
    refine ⟨rfl, Int.le_refl 0, ?_⟩
    show 0 ≤ (e' + 1074) * 2 ^ 53 + (m' : Int)
    omega
  · rw [heq] at hrounds
    have hcanonical := hrounds.canonical (Nat.mul_pos hm hm') hlow
    have hleast := hcanonical.least
    have hbits := hcanonical.bits
    rw [heq, unpack_pack hcanonical, if_pos (by omega)]
    refine ⟨rfl, ?_, ?_⟩
    · show 0 ≤ (t + 1074) * 2 ^ 53 + (r : Int)
      omega
    · show (t + 1074) * 2 ^ 53 + (r : Int) ≤ (e' + 1074) * 2 ^ 53 + m'
      omega

/-- A share of a length is no less than zero and no more than the length. --/
theorem share_le {f d : Seconds} (hf : 0.0 ≤ f) (hone : f ≤ 1.0) (hd : 0.0 ≤ d) (hfd : d.isFinite = true) :
    0.0 ≤ f * d ∧ f * d ≤ d := by
  have hff : f.isFinite = true := isFinite_of_between hf hone rfl rfl
  suffices key : (f * d).unpacked.isNaN = false ∧ 0 ≤ place (f * d).unpacked ∧
      place (f * d).unpacked ≤ place d.unpacked from
    ⟨le_iff_rank.mpr ⟨rfl, key.1, key.2.1⟩, le_iff_rank.mpr ⟨key.1, isNaN_of_isFinite hfd, key.2.2⟩⟩
  -- Where a factor is zero.
  have hzero : ∀ s : Sign, UnpackedFloat.mul Format.binary64 f.unpacked d.unpacked = .zero s →
      (f * d).unpacked.isNaN = false ∧ 0 ≤ place (f * d).unpacked ∧ place (f * d).unpacked ≤ place d.unpacked := by
    intro s hproduct
    rw [unpacked_mul, hproduct, @unpack_pack_of_bounded (.zero s) trivial]
    exact ⟨rfl, Int.le_refl 0, (le_iff_rank.mp hd).2.2⟩
  rcases unpacked_of_nonneg hf hff with ⟨s, hu⟩ | ⟨m, e, hm, hu, hc, he⟩
  · rcases unpacked_of_nonneg hd hfd with ⟨s', hv⟩ | ⟨m', e', hm', hv, hc', he'⟩
    · exact hzero (s * s') (by rw [hu, hv]; rfl)
    · exact hzero (s * .positive) (by rw [hu, hv]; rfl)
  · rcases unpacked_of_nonneg hd hfd with ⟨s', hv⟩ | ⟨m', e', hm', hv, hc', he'⟩
    · exact hzero (.positive * s') (by rw [hu, hv]; rfl)
    · have hplace := (le_iff_rank.mp hone).2.2
      rw [rank_one, rank, hu] at hplace
      rw [unpacked_mul, hu, hv]
      exact place_share hm hm' hc hc' he' hplace rfl

/-! ### What stays a number -/

theorem sub_isNaN {a b : Seconds} (ha : a.isFinite = true) (hb : b.isFinite = true) : (a - b).isNaN = false := by
  show (UnpackedFloat.unpack Format.binary64 (UnpackedFloat.pack Format.binary64
    (UnpackedFloat.sub Format.binary64 a.unpacked b.unpacked))).isNaN = false
  rw [isNaN_pack]
  rcases unpacked_of_finite ha with ⟨s, hu⟩ | ⟨s, m, e, hm, hu⟩ <;> rw [hu] <;>
    rcases unpacked_of_finite hb with ⟨s', hv⟩ | ⟨s', m', e', hm', hv⟩ <;> rw [hv]
  · cases s <;> cases s' <;> rfl
  · rfl
  · rfl
  · exact normalize_isNaN ..

theorem add_isNaN {a b : Seconds} (ha : a.isNaN = false) (hb : b.isFinite = true) : (a + b).isNaN = false := by
  have hua : a.unpacked.isNaN = false := ha
  show (a + b).unpacked.isNaN = false
  rw [unpacked_add, isNaN_pack]
  rcases unpacked_of_finite hb with ⟨s', hv⟩ | ⟨s', m', e', hm', hv⟩ <;> rw [hv]
  · cases hu : a.unpacked with
    | notANumber =>
      rw [hu] at hua
      cases hua
    | infinity s => rfl
    | zero s => cases s <;> cases s' <;> rfl
    | finite s m e hm => rfl
  · cases hu : a.unpacked with
    | notANumber =>
      rw [hu] at hua
      cases hua
    | infinity s | zero s => rfl
    | finite s m e hm => exact normalize_isNaN ..

/-- What is no number stays none. --/
theorem mul_isNaN {a : Seconds} (ha : a.isNaN = true) (b : Seconds) : (a * b).isNaN = true := by
  show (a * b).unpacked.isNaN = true
  rw [unpacked_mul, isNaN_pack]
  cases hu : a.unpacked with
  | notANumber => rfl
  | infinity | zero | finite =>
    replace ha : a.unpacked.isNaN = true := ha
    rw [hu] at ha
    cases ha

theorem div_isNaN {a b : Seconds} (ha : a.isNaN = false) (hb : 0.0 < b) (hfb : b.isFinite = true) :
    (a / b).isNaN = false := by
  have hua : a.unpacked.isNaN = false := ha
  show (UnpackedFloat.unpack Format.binary64 (UnpackedFloat.pack Format.binary64
    (UnpackedFloat.div Format.binary64 a.unpacked b.unpacked))).isNaN = false
  rw [isNaN_pack]
  rcases unpacked_of_finite hfb with ⟨s', hv⟩ | ⟨s', m', e', hm', hv⟩
  · have hpos : 0 < b.rank := (lt_iff_rank.mp hb).2.2
    rw [rank, hv] at hpos
    cases hpos
  · rw [hv]
    cases hu : a.unpacked with
    | notANumber =>
      rw [hu] at hua
      cases hua
    | infinity s | zero s => rfl
    | finite s m e hm => exact roundWithAccuracy_isNaN ..

end Seconds
end Cutroom
