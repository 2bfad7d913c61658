import Cutroom.Proofs.Timeline.Edited
import Cutroom.Proofs.Timeline.Order

/-! Where unsized clips come from, and what takes them away. No edit of a lane makes one: a part of a clip, a trimmed
    clip and added media have a length, so that an unsized clip of the new lane was in the lane before. A stretch
    leaves none. -/

namespace Cutroom

/-- A clip has a length as soon as it cannot both start and end at zero. --/
theorem Clip.sized_of_stop {c : Clip} (h : (c.start == 0.0) = true → (c.stop == 0.0) = false) : c.isUnsized = false := by
  unfold isUnsized
  cases hstart : c.start == 0.0 with
  | false => rfl
  | true => exact h hstart

namespace Lane

/-- Every clip of the lane has been given a length. --/
def Sized (lane : Lane) : Prop := ∀ c ∈ lane, c.isUnsized = false

instance (lane : Lane) : Decidable lane.Sized := inferInstanceAs (Decidable (∀ c ∈ lane, c.isUnsized = false))

theorem any_isUnsized_iff {lane : Lane} : lane.any Clip.isUnsized = true ↔ ¬ lane.Sized := by
  simp [Sized]

theorem stretches_iff {lane : Lane} {duration : Seconds} (hd : duration.isLength = true) :
    lane.stretches duration = true ↔ ¬ lane.Sized := by
  rw [stretches, hd, Bool.true_and, any_isUnsized_iff]

theorem splits_iff {c : Clip} {t : Seconds} : splits c t = true ↔ c.start < t ∧ t < c.stop := by
  rw [splits, Bool.and_eq_true, decide_eq_true_iff, decide_eq_true_iff]

theorem covers_iff {c : Clip} {t : Seconds} : c.covers t = true ↔ c.start ≤ t ∧ t < c.stop := by
  rw [Clip.covers, Bool.and_eq_true, decide_eq_true_iff, decide_eq_true_iff]

theorem leftPart_sized {c : Clip} {t : Seconds} (h : splits c t = true) : (leftPart t c).isUnsized = false :=
  Clip.sized_of_stop fun hstart => eq_false_of_ne_true fun hstop =>
    Seconds.not_lt_of_zeros hstart hstop (splits_iff.mp h).1

theorem rightPart_sized {c : Clip} {t : Seconds} (h : splits c t = true) (fresh : Identifier) :
    (rightPart fresh t c).isUnsized = false :=
  Clip.sized_of_stop fun hstart => eq_false_of_ne_true fun hstop =>
    Seconds.not_lt_of_zeros hstart hstop (splits_iff.mp h).2

theorem trimmed_sized (c : Clip) (step : Seconds) : ({ c with stop := trimmedStop c step } : Clip).isUnsized = false :=
  Clip.sized_of_stop fun hstart => Seconds.later_ne_zero (Seconds.pos_of_zero_add hstart).1

theorem added_sized {lane : Lane} {fresh : Identifier} {name : String} {source : Option MediaRef} :
    (⟨fresh, name, lane.lastStop, lane.lastStop + addedLength, source⟩ : Clip).isUnsized = false :=
  Clip.sized_of_stop fun hstart => Seconds.ne_zero_of_pos (Seconds.pos_of_zero_add hstart).2

theorem stretch_sized {duration : Seconds} (hd : duration.isLength = true) (lane : Lane) :
    (lane.stretch duration).Sized := by
  have hpos : 0.0 < duration := by
    rw [Seconds.isLength, Bool.and_eq_true, decide_eq_true_iff] at hd
    exact hd.1
  rw [stretch, if_pos hd]
  intro c hc
  obtain ⟨c, -, rfl⟩ := List.mem_map.mp hc
  split
  · exact Clip.sized_of_stop fun _ => Seconds.ne_zero_of_pos hpos
  · rename_i hsized
    exact eq_false_of_ne_true hsized

/-! ### Edits -/

variable {lane next : Lane} {id fresh : Identifier} {name : String} {source : Option MediaRef} {c : Clip}

theorem cut_unsized {t : Seconds} (h : lane.cut id fresh t = .ok next) (hc : c ∈ next) (hu : c.isUnsized = true) :
    c ∈ lane := by
  obtain ⟨before, whole, after, ⟨rfl, -, -⟩, hsplits, rfl⟩ := cut_eq_ok h
  simp only [List.mem_append, List.mem_cons, List.not_mem_nil, or_false] at hc ⊢
  rcases hc with (hc | rfl | rfl) | hc
  · exact .inl hc
  · rw [leftPart_sized hsplits] at hu
    cases hu
  · rw [rightPart_sized hsplits] at hu
    cases hu
  · exact .inr (.inr hc)

theorem trim_unsized {step : Seconds} (h : lane.trim id step = .ok next) (hc : c ∈ next) (hu : c.isUnsized = true) :
    c ∈ lane := by
  obtain ⟨before, long, after, ⟨rfl, -, -⟩, -, rfl⟩ := trim_eq_ok h
  simp only [List.mem_append, List.mem_cons, List.not_mem_nil, or_false] at hc ⊢
  rcases hc with (hc | rfl) | hc
  · exact .inl hc
  · rw [trimmed_sized] at hu
    cases hu
  · exact .inr (.inr hc)

theorem delete_subset (h : lane.delete id = .ok next) : next ⊆ lane := by
  obtain ⟨before, gone, after, ⟨rfl, -, -⟩, rfl⟩ := delete_eq_ok h
  exact ((List.Sublist.refl before).append (List.sublist_cons_self gone after)).subset

theorem append_unsized (h : lane.append fresh name source = .ok next) (hc : c ∈ next) (hu : c.isUnsized = true) :
    c ∈ lane := by
  unfold append Clip.create at h
  split at h
  · cases h
    rcases List.mem_append.mp hc with hc | hc
    · exact hc
    · rw [List.mem_singleton.mp hc, added_sized] at hu
      cases hu
  · cases h

end Lane
end Cutroom
