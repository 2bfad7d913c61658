import Cutroom.Proofs.Timeline.Exact
import Cutroom.Proofs.Timeline.Held

/-! Where the pointer points. On a track at a finite place the time under the pointer lies within the project and never
    falls as the pointer moves on, and it meets both ends of the project exactly, whatever is rounded or overflows on
    the way (`Track.Finite.timeAt_points`). -/

namespace Cutroom
namespace Seconds
open Float.Model

/-- A time that is held within bounds has the rank of the nearest time there. --/
theorem within_rank {low high t : Seconds} (h : low ≤ high) (ht : t.isNaN = false) :
    (within low high t).rank = max low.rank (min t.rank high.rank) := by
  obtain ⟨hlow, hhigh, hle⟩ := le_iff_rank.mp h
  unfold within
  simp only [lt_iff_rank, hlow, hhigh, ht, true_and]
  split
  · omega
  · split <;> omega

theorem beq_zero_of_rank {t : Seconds} (hnum : t.isNaN = false) (h : t.rank = 0) : (t == 0.0) = true := by
  rw [beq_eq, compare_unpacked, if_pos ⟨hnum, rfl⟩, h]
  rfl

theorem value_one : value 1.0 = 1 := by
  have hunpacked : unpacked 1.0 = .finite .positive (2 ^ 52) (-52) (Nat.two_pow_pos 52) := by
    refine eq_of_place (unpacked_bounded 1.0) ?_ ?_ rank_one
    · exact ⟨⟨by decide, by decide, .inl (Nat.le_refl _)⟩, by decide⟩
    · exact ne_of_eq_of_ne rank_one (by decide)
  rw [value, hunpacked]
  norm_num [exact, signed]

/-- A time after zero, divided by itself. --/
theorem div_self_rank {t : Seconds} (hpos : 0.0 < t) (hf : t.isFinite = true) : (t / t).rank = rank 1.0 := by
  have hone : Float.isFinite 1.0 = true := by decide
  rw [rank_div hf hf hpos, rank_eq hone, value_one, div_self (value_pos hpos hf).ne']

theorem zero_div_rank {t : Seconds} (hpos : 0.0 < t) (hf : t.isFinite = true) : (0.0 / t).rank = 0 := by
  have hzero : value 0.0 = 0 := rfl
  rw [rank_div isFinite_zero hf hpos, hzero, zero_div]
  rfl

/-- The whole of a length. --/
theorem one_mul_length {d : Seconds} (hpos : 0.0 < d) (hf : d.isFinite = true) : 1.0 * d = d := by
  have hone : Float.isFinite 1.0 = true := by decide
  have hrank : (1.0 * d).rank = d.rank := by rw [rank_mul hone hf, value_one, one_mul, rank_eq hf]
  have hzero : 0 < d.rank := (lt_iff_rank.mp hpos).2.2
  exact eq_of_rank (by omega) hrank

/-- Nothing of a length. --/
theorem zero_mul_length {d : Seconds} (hpos : 0.0 < d) (hf : d.isFinite = true) : 0.0 * d = 0.0 := by
  obtain ⟨m, e, hm, hu⟩ := unpacked_of_pos hpos hf
  refine unpacked_inj ?_
  rw [unpacked_mul, unpacked_zero, hu]
  exact unpack_pack_of_bounded (u := .zero .positive) trivial

end Seconds

namespace Track
open Seconds
variable {track : Track} {x y : Float} {duration : Seconds}

/-- How far into the track the pointer is, before that is held within the track. --/
def reach (track : Track) (x : Float) : Float := x - track.left + track.scroll

theorem fractionAt_of_width (hwidth : 0.0 < track.width) (hx : x.isFinite = true) :
    track.fractionAt x = within 0.0 1.0 (track.reach x / track.width) := by
  have hguard : (!decide (0.0 < track.width) || !x.isFinite) = false := by rw [decide_eq_true hwidth, hx]; rfl
  rw [fractionAt, hguard, if_neg Bool.false_ne_true]
  rfl

theorem timeAt_of_length (hpos : 0.0 < duration) (hfinite : duration.isFinite = true) :
    track.timeAt x duration = track.fractionAt x * duration := if_pos (isLength_iff.mpr ⟨hpos, hfinite⟩)

/-- Without a project, a track or a pointer, the time is zero. --/
theorem timeAt_of_degenerate
    (h : ¬ (0.0 < duration ∧ duration.isFinite = true ∧ 0.0 < track.width ∧ x.isFinite = true)) :
    track.timeAt x duration = 0.0 := by
  unfold timeAt
  split
  · rename_i hlength
    obtain ⟨hpos, hfinite⟩ := isLength_iff.mp hlength
    have hguard : (!decide (0.0 < track.width) || !x.isFinite) = true := by
      rw [Bool.or_eq_true, Bool.not_eq_true', Bool.not_eq_true', decide_eq_false_iff_not, ← Bool.not_eq_true]
      exact Decidable.not_and_iff_not_or_not.mp fun ⟨hwidth, hx⟩ => h ⟨hpos, hfinite, hwidth, hx⟩
    rw [fractionAt, if_pos hguard]
    exact zero_mul_length hpos hfinite
  · rfl

namespace Finite

theorem reach_isNaN (h : track.Finite) (hx : x.isFinite = true) : (track.reach x).isNaN = false :=
  add_isNaN (sub_isNaN hx h.left) h.scroll

theorem reach_mono (h : track.Finite) (hx : x.isFinite = true) (hy : y.isFinite = true) (hle : x ≤ y) :
    track.reach x ≤ track.reach y :=
  add_le_add_right (sub_le_sub_right hle hx hy h.left) h.scroll

/-! ### The share of the track -/

theorem fractionAt_rank (h : track.Finite) (hwidth : 0.0 < track.width) (hx : x.isFinite = true) :
    rank (track.fractionAt x) = max 0 (min (rank (track.reach x / track.width)) (rank 1.0)) := by
  have hunit : (0.0 : Seconds) ≤ 1.0 := le_of_lt (by decide)
  rw [fractionAt_of_width hwidth hx, within_rank hunit (div_isNaN (h.reach_isNaN hx) hwidth h.width), rank_zero]

theorem fractionAt_isFinite (h : track.Finite) (x : Float) : (track.fractionAt x).isFinite = true :=
  have hbounds := fractionAt_bounds (h.not_loses x)
  isFinite_of_between hbounds.1 hbounds.2 isFinite_zero (by decide)

theorem fractionAt_mono (h : track.Finite) (hwidth : 0.0 < track.width) (hx : x.isFinite = true)
    (hy : y.isFinite = true) (hle : x ≤ y) : track.fractionAt x ≤ track.fractionAt y := by
  obtain ⟨-, -, hshare⟩ := le_iff_rank.mp (div_le_div_right (h.reach_mono hx hy hle) hwidth h.width)
  refine le_iff_rank.mpr ⟨isNaN_of_isFinite (h.fractionAt_isFinite x), isNaN_of_isFinite (h.fractionAt_isFinite y), ?_⟩
  rw [h.fractionAt_rank hwidth hx, h.fractionAt_rank hwidth hy]
  omega

theorem fractionAt_before (h : track.Finite) (hwidth : 0.0 < track.width) (hx : x.isFinite = true)
    (hbefore : track.reach x ≤ 0.0) : track.fractionAt x ≤ 0.0 := by
  obtain ⟨-, -, hshare⟩ := le_iff_rank.mp (div_le_div_right hbefore hwidth h.width)
  rw [zero_div_rank hwidth h.width] at hshare
  refine le_iff_rank.mpr ⟨isNaN_of_isFinite (h.fractionAt_isFinite x), rfl, ?_⟩
  rw [h.fractionAt_rank hwidth hx, rank_zero]
  omega

theorem fractionAt_behind (h : track.Finite) (hwidth : 0.0 < track.width) (hx : x.isFinite = true)
    (hbehind : track.width ≤ track.reach x) : track.fractionAt x = 1.0 := by
  obtain ⟨-, -, hshare⟩ := le_iff_rank.mp (div_le_div_right hbehind hwidth h.width)
  rw [div_self_rank hwidth h.width] at hshare
  have hone := rank_one
  have hrank : rank (track.fractionAt x) = rank 1.0 := by
    rw [h.fractionAt_rank hwidth hx]
    omega
  exact eq_of_rank (by omega) hrank

/-! ### The time -/

/-- On a track at a finite place the time under the pointer is zero where there is no project, no track or no pointer.
    Else it lies within the project, is a zero of either sign up to the left end of the track and the whole duration
    from its right end on, and does not fall as the pointer moves on. --/
theorem timeAt_points (h : track.Finite) (duration : Seconds) :
    (∀ x, ¬ (0.0 < duration ∧ duration.isFinite = true ∧ 0.0 < track.width ∧ x.isFinite = true) →
      track.timeAt x duration = 0.0) ∧
    (0.0 < duration → duration.isFinite = true → 0.0 < track.width →
      (∀ x, x.isFinite = true →
        (track.timeAt x duration).isNaN = false ∧
        0.0 ≤ track.timeAt x duration ∧ track.timeAt x duration ≤ duration ∧
        (x - track.left + track.scroll ≤ 0.0 → (track.timeAt x duration == 0.0) = true) ∧
        (track.width ≤ x - track.left + track.scroll → track.timeAt x duration = duration)) ∧
      ∀ x y, x.isFinite = true → y.isFinite = true → x ≤ y → track.timeAt x duration ≤ track.timeAt y duration) := by
  refine ⟨fun x hx => timeAt_of_degenerate hx, fun hpos hfinite hwidth => ?_⟩
  have hnonneg : 0.0 ≤ duration := le_of_lt hpos
  have hbounds : ∀ x, 0.0 ≤ track.timeAt x duration ∧ track.timeAt x duration ≤ duration :=
    fun x => timeAt_bounds hnonneg fun hlost => h.not_loses x hlost.2
  refine ⟨fun x hx => ⟨?number, (hbounds x).1, (hbounds x).2, fun hbefore => ?before, fun hbehind => ?behind⟩,
    fun x y hx hy hle => ?mono⟩
  case number => exact (le_iff_rank.mp (hbounds x).1).2.1
  case before =>
    obtain ⟨-, hnum, hlow⟩ := le_iff_rank.mp (hbounds x).1
    have hhigh := mul_le_mul_right (h.fractionAt_before hwidth hx hbefore) (h.fractionAt_isFinite x) isFinite_zero
      hnonneg hfinite
    rw [zero_mul_length hpos hfinite, ← timeAt_of_length hpos hfinite] at hhigh
    exact beq_zero_of_rank hnum (Int.le_antisymm hhigh hlow)
  case behind =>
    rw [timeAt_of_length hpos hfinite, h.fractionAt_behind hwidth hx hbehind]
    exact one_mul_length hpos hfinite
  case mono =>
    refine le_iff_rank.mpr ⟨(le_iff_rank.mp (hbounds x).1).2.1, (le_iff_rank.mp (hbounds y).1).2.1, ?_⟩
    rw [timeAt_of_length hpos hfinite, timeAt_of_length hpos hfinite]
    exact mul_le_mul_right (h.fractionAt_mono hwidth hx hy hle) (h.fractionAt_isFinite x) (h.fractionAt_isFinite y)
      hnonneg hfinite

end Finite

/-- A track so far to the left that the way to the pointer overflows. --/
theorem timeAt_points_of_overflow :
    Finite ⟨-1.7e308, 600.0, 20.0⟩ ∧ (reach ⟨-1.7e308, 600.0, 20.0⟩ 1.7e308).isFinite = false ∧
      timeAt ⟨-1.7e308, 600.0, 20.0⟩ 1.7e308 47.5 = 47.5 ∧
      timeAt ⟨-1.7e308, 600.0, 20.0⟩ (-1.7e308) 47.5 ≤ timeAt ⟨-1.7e308, 600.0, 20.0⟩ 1.7e308 47.5 := by
  have htrack : Finite ⟨-1.7e308, 600.0, 20.0⟩ := ⟨by decide +kernel, by decide +kernel, by decide +kernel⟩
  obtain ⟨hpoints, hmono⟩ := (htrack.timeAt_points 47.5).2 (by decide) (by decide) (by decide +kernel)
  obtain ⟨-, -, -, -, hbehind⟩ := hpoints 1.7e308 (by decide +kernel)
  exact ⟨htrack, by decide +kernel, hbehind (by decide +kernel),
    hmono _ _ (by decide +kernel) (by decide +kernel) (by decide +kernel)⟩

end Track
end Cutroom
