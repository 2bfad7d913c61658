import Cutroom.Json.Record
import Cutroom.Proofs.Timeline.Rounded

/-! A whole number that fits a word of 64 bits is read as a finite double (`Seconds.isFinite_ofInt`): it is no more than
    a power of two that is a double, and is rounded to no more than that. -/

namespace Cutroom
namespace Seconds
open Float.Model Float.Model.UnpackedFloat

/-- What is no more than a double is not rounded beyond the finite ones. --/
theorem Rounds.isFinite {s : Sign} {m M : Nat} {e E : Int} {u : UnpackedFloat} (h : Rounds s m e u)
    (hc : Canonical M E) (hE : E ≤ 971) (hm : 0 < m) (hM : 0 < M) (he : e ≤ E) (hlow : e ≤ target m e)
    (hle : m ≤ M * 2 ^ (E - e).toNat) :
    (UnpackedFloat.unpack Format.binary64 (UnpackedFloat.pack Format.binary64 u)).isFinite = true := by
  rcases h.ge hc hm hM he hle with rfl | ⟨r, t, hr, rfl, hlex⟩
  · rw [unpack_pack_of_bounded (u := .zero s) trivial]
    rfl
  · rw [unpack_pack (h.canonical hm hlow), if_pos (by omega)]
    rfl

theorem canonical_word : Canonical (2 ^ 52) 12 := ⟨by decide, by decide, .inl (Nat.le_refl _)⟩

theorem isFinite_mul_one {t : Seconds} (h : t.isFinite = true) : (t * 1.0).isFinite = true := by
  have hone : unpacked 1.0 = .finite .positive (2 ^ 52) (-52) (Nat.two_pow_pos 52) := rfl
  show (t * 1.0).unpacked.isFinite = true
  rw [unpacked_mul, hone]
  have hbounded := t.unpacked_bounded
  rcases unpacked_of_finite h with ⟨s, hu⟩ | ⟨s, m, e, hm, hu⟩
  · rw [hu]
    cases s <;> rfl
  · rw [hu] at hbounded ⊢
    obtain ⟨hc, he⟩ := hbounded
    have hpos : 0 < m * 2 ^ 52 := Nat.mul_pos hm (Nat.two_pow_pos 52)
    have hlow : e + -52 ≤ target (m * 2 ^ 52) (e + -52) := by
      rw [target_eq, log2_mul_two_pow hm]
      have hleast := hc.least
      rcases hc.full with hfull | hleast
      · have hbits := (Nat.le_log2 (Nat.ne_of_gt hm)).mpr hfull
        omega
      · omega
    have hshift : (e - (e + -52)).toNat = 52 := by omega
    have hle : m * 2 ^ 52 ≤ m * 2 ^ (e - (e + -52)).toNat := by rw [hshift]
    exact (roundWithAccuracy_rounds _ hlow).isFinite hc he hpos hm (by omega) hlow hle

theorem isFinite_toFloat (n : UInt64) : n.toFloat.isFinite = true := by
  have hn : n.toNat < 2 ^ 64 := n.toNat_lt
  show (UnpackedFloat.unpack Format.binary64 (UnpackedFloat.pack Format.binary64
    (UnpackedFloat.normalize Format.binary64 (n.toNat : Int) 0 .positive))).isFinite = true
  by_cases hzero : n.toNat = 0
  · rw [hzero]
    rfl
  · have hpos := Nat.pos_of_ne_zero hzero
    rw [normalize_pos hpos]
    obtain ⟨k, hlow, hrounds⟩ := round_rounds .positive hpos 0
    have hshift : (12 - (0 - (k : Int))).toNat = 12 + k := by omega
    have hle : n.toNat * 2 ^ k ≤ 2 ^ 52 * 2 ^ (12 - (0 - (k : Int))).toNat := by
      rw [hshift, Nat.pow_add, ← Nat.mul_assoc]
      exact Nat.mul_le_mul_right _ (Nat.le_of_lt hn)
    exact hrounds.isFinite canonical_word (by decide) (Nat.mul_pos hpos (Nat.two_pow_pos k)) (Nat.two_pow_pos 52)
      (by omega) hlow hle

/-- Beyond the whole numbers that all are doubles, the product with one is rounded. --/
theorem isFinite_ofScientific {n : Nat} (hlong : 2 ^ 53 ≤ n) (h : n < 2 ^ 64) :
    (Float.Model.ofScientific n 0).isFinite = true := by
  have hpos : 0 < n := Nat.lt_of_lt_of_le (Nat.two_pow_pos 53) hlong
  have hproduct : UnpackedFloat.ofScientific Format.binary64 n 0 =
      roundWithAccuracy Format.binary64 .positive (n <<< 53 * 1) (-53 + 0) .exact := by
    unfold UnpackedFloat.ofScientific
    have hbits : (2 : Int) ^ Format.binary64.exponentBits = 2048 := rfl
    rw [dif_neg (Nat.ne_of_gt hpos), hbits, if_neg (by decide), if_neg (by omega), if_pos (Int.le_refl 0)]
    rfl
  show (UnpackedFloat.unpack Format.binary64 (UnpackedFloat.pack Format.binary64
    (UnpackedFloat.ofScientific Format.binary64 n 0))).isFinite = true
  rw [hproduct, Nat.mul_one, Nat.shiftLeft_eq, Int.add_zero]
  have hbits : 53 ≤ n.log2 := (Nat.le_log2 (Nat.ne_of_gt hpos)).mpr hlong
  have hlow : -53 ≤ target (n * 2 ^ 53) (-53) := by
    rw [target_eq, log2_mul_two_pow hpos]
    omega
  have hle : n * 2 ^ 53 ≤ 2 ^ 52 * 2 ^ (12 - (-53 : Int)).toNat := by
    have hshift : (12 - (-53 : Int)).toNat = 12 + 53 := rfl
    rw [hshift]
    omega
  exact (roundWithAccuracy_rounds _ hlow).isFinite canonical_word (by decide) (Nat.mul_pos hpos (Nat.two_pow_pos 53))
    (Nat.two_pow_pos 52) (by decide) hlow hle

theorem isFinite_ofNat {n : Nat} (h : n < 2 ^ 64) : (Float.ofNat n).isFinite = true := by
  show (Float.ofScientific n false 0).isFinite = true
  unfold Float.ofScientific
  split
  · exact isFinite_mul_one (isFinite_toFloat _)
  · exact isFinite_ofScientific (by omega) h

theorem isFinite_neg {t : Seconds} (h : t.isFinite = true) : (-t).isFinite = true := by
  show (UnpackedFloat.unpack Format.binary64 (UnpackedFloat.pack Format.binary64 t.unpacked.neg)).isFinite = true
  have hbounded := t.unpacked_bounded
  rcases unpacked_of_finite h with ⟨s, hu⟩ | ⟨s, m, e, hm, hu⟩
  · rw [hu]
    cases s <;> rfl
  · rw [hu] at hbounded ⊢
    have hneg : Bounded (.finite (-s) m e hm) := hbounded
    rw [UnpackedFloat.neg, unpack_pack_of_bounded hneg]
    rfl

/-- A whole number that fits a word is a finite double. --/
theorem isFinite_ofInt {n : Int} (hlow : -2 ^ 63 ≤ n) (hhigh : n < 2 ^ 64) : (Float.ofInt n).isFinite = true := by
  cases n with
  | ofNat n => exact isFinite_ofNat (Int.ofNat_lt.mp hhigh)
  | negSucc n => exact isFinite_neg (isFinite_ofNat (by omega))

end Seconds
end Cutroom
