import Cutroom.Timeline.Lane

/-! How times compare with zero. A double is unpacked to an infinity, a zero of either sign, a finite number other than
    zero or no number at all, and comparisons look at that alone. -/

namespace Cutroom
namespace Seconds
open Float.Model

/-- What a time is. --/
def unpacked (t : Seconds) : UnpackedFloat := t.toModel.unpack

theorem unpacked_zero : unpacked 0.0 = .zero .positive := rfl

theorem beq_eq (a b : Seconds) : (a == b) = (a.unpacked.compare b.unpacked == some .eq) := rfl

theorem lt_iff {a b : Seconds} : a < b ↔ a.unpacked.compare b.unpacked = some .lt :=
  decide_eq_true_iff.trans beq_iff_eq

/-- Both zeros compare alike. --/
theorem zero_compare (sign : UnpackedFloat.Sign) (u : UnpackedFloat) :
    (UnpackedFloat.zero sign).compare u = (UnpackedFloat.zero .positive).compare u := by
  cases u with
  | infinity s => cases s <;> rfl
  | notANumber => rfl
  | zero s => rfl
  | finite s m e h => cases s <;> rfl

theorem eq_zero_iff {t : Seconds} : (t == 0.0) = true ↔ ∃ sign, t.unpacked = .zero sign := by
  rw [beq_eq, unpacked_zero]
  constructor
  · intro h
    cases hu : t.unpacked with
    | zero sign => exact ⟨sign, rfl⟩
    | notANumber =>
      rw [hu] at h
      cases h
    | infinity sign | finite sign m e hm =>
      rw [hu] at h
      cases sign <;> cases h
  · rintro ⟨sign, h⟩
    rw [h]
    rfl

theorem not_lt_of_zeros {a b : Seconds} (ha : (a == 0.0) = true) (hb : (b == 0.0) = true) : ¬ a < b := by
  obtain ⟨sign, ha⟩ := eq_zero_iff.mp ha
  obtain ⟨sign', hb⟩ := eq_zero_iff.mp hb
  rw [lt_iff, ha, hb]
  intro h
  cases h

/-- Every zero is before a time after zero. --/
theorem lt_of_zero {a b : Seconds} (ha : (a == 0.0) = true) (hb : 0.0 < b) : a < b := by
  obtain ⟨sign, ha⟩ := eq_zero_iff.mp ha
  rw [lt_iff, unpacked_zero] at hb
  rw [lt_iff, ha, zero_compare]
  exact hb

theorem ne_zero_of_pos {t : Seconds} (h : 0.0 < t) : (t == 0.0) = false :=
  eq_false_of_ne_true fun hz => not_lt_of_zeros (by decide) hz h

theorem isNaN_of_pos {t : Seconds} (h : 0.0 < t) : t.isNaN = false := by
  rw [lt_iff, unpacked_zero] at h
  show t.unpacked.isNaN = false
  cases hu : t.unpacked with
  | notANumber =>
    rw [hu] at h
    cases h
  | infinity | zero | finite => rfl

/-- The later of two times is not zero where one of them is after zero. --/
theorem later_ne_zero {a b : Seconds} (hb : 0.0 < b) : (later a b == 0.0) = false := by
  unfold later
  split
  · exact ne_zero_of_pos hb
  · split
    · rename_i hnan
      rw [isNaN_of_pos hb] at hnan
      cases hnan
    · split
      · exact ne_zero_of_pos hb
      · rename_i hlt
        exact eq_false_of_ne_true fun hz => hlt (lt_of_zero hz hb)

/-- A zero and a length that is added to it. --/
theorem pos_of_zero_add {t : Seconds} (h : (t == 0.0) = true) : 0.0 < t + minimumLength ∧ 0.0 < t + addedLength := by
  obtain ⟨sign, h⟩ := eq_zero_iff.mp h
  have hadd : ∀ length : Seconds, 0.0 < t + length ↔
      (UnpackedFloat.zero .positive).compare (pack (.add .binary64 (.zero sign) length.unpacked)).unpack = some .lt := by
    intro length
    rw [lt_iff, unpacked_zero, ← h]
    rfl
  rw [hadd, hadd]
  cases sign <;> decide

end Seconds
end Cutroom
