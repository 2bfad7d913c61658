import Cutroom.Proofs.Timeline.Dragged
import Cutroom.Proofs.Timeline.Held

/-! Which playheads can be stored and restored (`Playhead.Sound`). A playhead that is sound stays so until a track loses
    the pointer that moves it, which takes a track at no finite place; and one that begins is sound if its project
    is of finite length (`Playhead.Begun.follow_sound_iff`). -/

namespace Cutroom
namespace Playhead

variable {p : Playhead}

/-- A playhead is restored as it was stored if it stands within a project of finite length, and else it is refused. --/
theorem restore_eq_ok_iff {time duration : Seconds} {drag : Drag} : restore time duration drag = .ok p ↔
    p = ⟨time, duration, drag⟩ ∧ duration.isFinite = true ∧ 0.0 ≤ time ∧ time ≤ duration := by
  unfold restore
  constructor
  · intro h
    split at h
    · cases h
    · rename_i hlength
      split at h
      · cases h
      · rename_i htime
        cases h
        simp only [Bool.or_eq_true, Bool.not_eq_true', Bool.and_eq_false_iff, not_or, Bool.not_eq_false,
          decide_eq_false_iff_not, Decidable.not_not] at hlength htime
        exact ⟨rfl, hlength.1, htime.2⟩
  · rintro ⟨rfl, hfinite, hearly, hlate⟩
    have hnonneg : ¬ duration < 0.0 := fun h => Seconds.not_le_of_lt h (Seconds.le_trans hearly hlate)
    have htime : time.isFinite = true := Seconds.isFinite_of_between hearly hlate Seconds.isFinite_zero hfinite
    simp [hfinite, hnonneg, htime, hearly, hlate]

/-- The playhead stands at a finite time within a project of finite length, and is restored as it is. --/
structure Sound (p : Playhead) : Prop where
  length : p.duration.isFinite = true
  nonneg : 0.0 ≤ p.duration
  time : p.time.isFinite = true
  early : 0.0 ≤ p.time
  late : p.time ≤ p.duration
  restored : restore p.time p.duration p.drag = .ok p

theorem sound_iff : p.Sound ↔ p.duration.isFinite = true ∧ p.Held := by
  refine ⟨fun h => ⟨h.length, h.early, h.late⟩, fun ⟨hfinite, hheld⟩ => ?_⟩
  have htime := Seconds.isFinite_of_between hheld.early hheld.late Seconds.isFinite_zero hfinite
  exact ⟨hfinite, hheld.nonneg, htime, hheld.early, hheld.late,
    restore_eq_ok_iff.mpr ⟨rfl, hfinite, hheld.early, hheld.late⟩⟩

/-! ### Beginnings -/

/-- Where a playhead comes from: it stands at rest, it starts with a project of any length, or it was stored. --/
inductive Begun : Playhead → Prop where
  | atRest : Begun atRest
  | start (duration : Seconds) : Begun (start duration)
  | restored {p : Playhead} {time duration : Seconds} {drag : Drag} (h : restore time duration drag = .ok p) : Begun p

theorem Begun.held (h : Begun p) : p.Held := by
  cases h with
  | atRest => exact ⟨Seconds.le_refl rfl, Seconds.le_refl rfl⟩
  | start duration =>
    have hlate : 0.0 ≤ Seconds.later duration 0.0 := Seconds.le_later rfl
    exact ⟨Seconds.le_refl rfl, hlate⟩
  | restored h =>
    obtain ⟨rfl, -, hearly, hlate⟩ := restore_eq_ok_iff.mp h
    exact ⟨hearly, hlate⟩

/-! ### One operation -/

/-- The playhead is moved along a track that loses the pointer. --/
def Misplaces (p : Playhead) : Operation → Prop
  | .gesture g => p.Strays g
  | .setDuration _ => False

/-- A gesture on a track that lies at a finite place, where one is concerned. --/
def Operation.Finite : Operation → Prop
  | .gesture g => g.Finite
  | .setDuration _ => True

theorem not_misplaces_of_finite {op : Operation} (h : op.Finite) (p : Playhead) : ¬ p.Misplaces op := by
  cases op with
  | gesture g => exact not_strays_of_finite h p
  | setDuration => exact id

theorem Sound.setDuration (h : p.Sound) (duration : Seconds) : (p.setDuration duration).Sound := by
  obtain ⟨hnonneg, hfinite⟩ := duration.lengthOrZero_bounds
  -- Any length counts as the finite one that is taken for it.
  have hsame : p.setDuration duration = p.setDuration duration.lengthOrZero := by
    rw [Playhead.setDuration, Playhead.setDuration, Seconds.lengthOrZero_of_nonneg hnonneg hfinite]
  obtain ⟨hheld, hduration⟩ := (sound_iff.mp h).2.setDuration hnonneg hfinite
  rw [hsame]
  exact sound_iff.mpr ⟨(congrArg Float.isFinite hduration).trans hfinite, hheld⟩

theorem Sound.perform (h : p.Sound) {op : Operation} (hop : ¬ p.Misplaces op) : (p.perform op).Sound := by
  cases op with
  | gesture g =>
    obtain ⟨hheld, hduration⟩ := (sound_iff.mp h).2.after hop
    exact sound_iff.mpr ⟨(congrArg Float.isFinite hduration).trans h.length, hheld⟩
  | setDuration duration => exact h.setDuration duration

theorem Strays.moved {g : Gesture} (h : p.Strays g) :
    ∃ x track, p.after g = p.moveTo x track ∧ p.duration.isLength = true ∧ track.Loses x := by
  cases g with
  | press | release | seek | tick => cases h
  | move x track =>
    obtain ⟨hdrag, hlost⟩ := h
    exact ⟨x, track, by simp [Playhead.after, gesture?, dragTo?, hdrag], hlost⟩
  | clickTrack x track =>
    obtain ⟨hdrag, hlost⟩ := h
    exact ⟨x, track, by simp [Playhead.after, gesture?, clickTrack?, hdrag], hlost⟩
  | clickRuler x track => exact ⟨x, track, rfl, h⟩

theorem Misplaces.isNaN {op : Operation} (h : p.Misplaces op) : (p.perform op).time.isNaN = true := by
  cases op with
  | setDuration => cases h
  | gesture g =>
    obtain ⟨x, track, hmoved, hlength, hlost⟩ := Strays.moved h
    rw [Playhead.perform, hmoved]
    exact Track.timeAt_of_loses hlength hlost

theorem Misplaces.not_sound {op : Operation} (h : p.Misplaces op) : ¬ (p.perform op).Sound := by
  intro hsound
  have hnum := Seconds.isNaN_of_isFinite hsound.time
  rw [h.isNaN] at hnum
  cases hnum

/-! ### Rows of operations -/

theorem follow_concat (p : Playhead) (before : List Operation) (op : Operation) :
    p.follow (before ++ [op]) = (p.follow before).perform op := List.foldl_concat ..

theorem Sound.follow (h : p.Sound) {operations : List Operation}
    (hops : ∀ before op after, operations = before ++ op :: after → ¬ (p.follow before).Misplaces op) :
    ∀ before, before <+: operations → (p.follow before).Sound := by
  induction operations generalizing p with
  | nil =>
    intro before hbefore
    rw [List.prefix_nil.mp hbefore]
    exact h
  | cons op rest ih =>
    intro before hbefore
    rcases List.prefix_cons_iff.mp hbefore with rfl | ⟨others, rfl, hothers⟩
    · exact h
    · refine ih (h.perform (hops [] op rest rfl)) (fun early later after heq => ?_) others hothers
      exact hops (op :: early) later after (by rw [heq]; rfl)

/-- A playhead is sound throughout a row of operations exactly if it begins in a project of finite length and no
    operation moves it along a track that loses the pointer. On tracks at finite places, none does. --/
theorem Begun.follow_sound_iff (h : Begun p) (operations : List Operation) :
    ((∀ before, before <+: operations → (p.follow before).Sound) ↔
      p.duration.isFinite = true ∧
        ∀ before op after, operations = before ++ op :: after → ¬ (p.follow before).Misplaces op) ∧
      ((∀ op ∈ operations, op.Finite) →
        ∀ before op after, operations = before ++ op :: after → ¬ (p.follow before).Misplaces op) := by
  refine ⟨⟨fun hall => ⟨(hall [] List.nil_prefix).length, ?kept⟩, fun ⟨hfinite, hops⟩ => ?sound⟩, ?finite⟩
  case kept =>
    rintro before op after rfl hop
    have hnext := hall (before ++ [op]) ⟨after, by rw [List.append_assoc]; rfl⟩
    rw [follow_concat] at hnext
    exact hop.not_sound hnext
  case sound => exact (sound_iff.mpr ⟨hfinite, h.held⟩).follow hops
  case finite =>
    rintro hfinite before op after rfl
    exact not_misplaces_of_finite (hfinite op (List.mem_append_right _ List.mem_cons_self)) _

/-- A drag over both ends of a scrolled track, while the project becomes shorter, and a report that is no time. --/
def scrub : List Operation :=
  let track : Track := ⟨20.0, 600.0, 100.0⟩
  [.gesture .press, .gesture (.move 900.0 track), .setDuration 45.0, .gesture (.move (-300.0) track),
    .gesture .release, .gesture (.tick (0.0 / 0.0) true), .gesture (.clickTrack 220.0 track)]

theorem follow_sound_iff_of_scrub :
    Begun (start 60.0) ∧ (start 60.0).duration.isFinite = true ∧ (∀ op ∈ scrub, op.Finite) ∧
      ((start 60.0).follow scrub).time = 22.5 ∧ ∀ before, before <+: scrub → ((start 60.0).follow before).Sound := by
  have hlength : (start 60.0).duration.isFinite = true := by decide
  have hfinite : ∀ op ∈ scrub, op.Finite := by
    have htrack : Track.Finite ⟨20.0, 600.0, 100.0⟩ := ⟨by decide, by decide, by decide⟩
    simp only [scrub, List.forall_mem_cons]
    exact ⟨trivial, htrack, trivial, htrack, trivial, trivial, htrack, List.forall_mem_nil _⟩
  obtain ⟨hiff, hkept⟩ := (Begun.start 60.0).follow_sound_iff scrub
  exact ⟨.start 60.0, hlength, hfinite, by decide +kernel, hiff.mpr ⟨hlength, hkept hfinite⟩⟩

/-- A project that starts with no end, and a track with a left edge that is no number. --/
theorem unsound_beginning_and_track :
    Begun (start (1.0 / 0.0)) ∧ ¬ (start (1.0 / 0.0)).Sound ∧
      (start 10.0).Sound ∧ ¬ ((start 10.0).follow [.gesture (.clickRuler 5.0 ⟨0.0 / 0.0, 100.0, 0.0⟩)]).Sound := by
  refine ⟨.start _, fun h => ?_, sound_iff.mpr ⟨by decide, (Begun.start 10.0).held⟩, fun h => ?_⟩
  · exact absurd h.length (by decide)
  · exact absurd h.time (by decide +kernel)

end Playhead
end Cutroom
