import Cutroom.Proofs.Timeline.Rounded
import Cutroom.Timeline.Gesture

/-! Where the playhead can stand: within the length of the project, whatever the user and playback do, as long as no
    track loses the pointer (`Playhead.Held.after`). A track at a finite place never does. -/

namespace Cutroom

/-- The track lies at a finite place. --/
structure Track.Finite (track : Track) : Prop where
  left : track.left.isFinite = true
  width : track.width.isFinite = true
  scroll : track.scroll.isFinite = true

/-- The pointer is somewhere and the track has a width, but the share of the track left of the pointer comes out as no
    number. --/
def Track.Loses (track : Track) (x : Float) : Prop :=
  0.0 < track.width ∧ x.isFinite = true ∧ ((x - track.left + track.scroll) / track.width).isNaN = true

theorem Track.Finite.not_loses {track : Track} (h : track.Finite) (x : Float) : ¬ track.Loses x := by
  rintro ⟨hwidth, hx, hlost⟩
  have hnum := Seconds.add_isNaN (Seconds.sub_isNaN hx h.left) h.scroll
  rw [Seconds.div_isNaN hnum hwidth h.width] at hlost
  cases hlost

theorem Track.fractionAt_of_loses {track : Track} {x : Float} (h : track.Loses x) :
    (track.fractionAt x).isNaN = true := by
  obtain ⟨hwidth, hx, hlost⟩ := h
  have hguard : (!decide (0.0 < track.width) || !x.isFinite) = false := by rw [decide_eq_true hwidth, hx]; rfl
  rw [fractionAt, hguard, if_neg Bool.false_ne_true, Seconds.within_of_isNaN hlost]
  exact hlost

/-- A share of the track is a share, wherever the pointer is. --/
theorem Track.fractionAt_bounds {track : Track} {x : Float} (h : ¬ track.Loses x) :
    0.0 ≤ track.fractionAt x ∧ track.fractionAt x ≤ 1.0 := by
  have hunit : (0.0 : Seconds) ≤ 1.0 := Seconds.le_of_lt (by decide)
  unfold fractionAt
  split
  · exact ⟨Seconds.le_refl rfl, hunit⟩
  · rename_i hguard
    simp only [Bool.or_eq_true, Bool.not_eq_true', decide_eq_false_iff_not, Decidable.not_not, not_or,
      Bool.not_eq_false] at hguard
    obtain ⟨hwidth, hx⟩ := hguard
    have hnum := eq_false_of_ne_true fun hlost => h ⟨hwidth, hx, hlost⟩
    exact Seconds.within_bounds hunit hnum

theorem Track.timeAt_of_loses {track : Track} {x : Float} {duration : Seconds} (hd : duration.isLength = true)
    (h : track.Loses x) : (track.timeAt x duration).isNaN = true := by
  rw [timeAt, if_pos hd]
  exact Seconds.mul_isNaN (fractionAt_of_loses h) duration

theorem Track.timeAt_bounds {track : Track} {x : Float} {duration : Seconds} (hd : 0.0 ≤ duration)
    (h : ¬ (duration.isLength = true ∧ track.Loses x)) :
    0.0 ≤ track.timeAt x duration ∧ track.timeAt x duration ≤ duration := by
  unfold timeAt
  split
  · rename_i hlength
    obtain ⟨hlow, hhigh⟩ := fractionAt_bounds fun hlost => h ⟨hlength, hlost⟩
    exact Seconds.share_le hlow hhigh hd (Seconds.isLength_iff.mp hlength).2
  · exact ⟨Seconds.le_refl rfl, hd⟩

/-- A gesture on a track that lies at a finite place, where one is concerned. --/
def Gesture.Finite : Gesture → Prop
  | .move _ track | .clickTrack _ track | .clickRuler _ track => track.Finite
  | .press | .release | .seek _ | .tick _ _ => True

namespace Playhead

/-- The gesture moves the playhead along the track, and the track loses the pointer. --/
def Strays (p : Playhead) : Gesture → Prop
  | .move x track => p.isDragging = true ∧ p.duration.isLength = true ∧ track.Loses x
  | .clickTrack x track => p.isDragging = false ∧ p.duration.isLength = true ∧ track.Loses x
  | .clickRuler x track => p.duration.isLength = true ∧ track.Loses x
  | .press | .release | .seek _ | .tick _ _ => False

theorem not_strays_of_finite {g : Gesture} (hg : g.Finite) (p : Playhead) : ¬ p.Strays g := by
  cases g with
  | press | release | seek | tick => exact id
  | move x track | clickTrack x track => exact fun h => Track.Finite.not_loses hg x h.2.2
  | clickRuler x track => exact fun h => Track.Finite.not_loses hg x h.2

/-- The playhead stands within the project. --/
structure Held (p : Playhead) : Prop where
  early : 0.0 ≤ p.time
  late : p.time ≤ p.duration

theorem Held.nonneg {p : Playhead} (h : p.Held) : 0.0 ≤ p.duration := Seconds.le_trans h.early h.late

theorem Held.moveTo {p : Playhead} (h : p.Held) {x : Float} {track : Track}
    (hx : ¬ (p.duration.isLength = true ∧ track.Loses x)) : (p.moveTo x track).Held :=
  have hbounds := Track.timeAt_bounds h.nonneg hx
  ⟨hbounds.1, hbounds.2⟩

theorem Held.seek {p : Playhead} (h : p.Held) (t : Seconds) : (p.seek t).Held := by
  suffices hbounds : 0.0 ≤ (p.seek t).time ∧ (p.seek t).time ≤ p.duration from ⟨hbounds.1, hbounds.2⟩
  unfold Playhead.seek
  dsimp only
  split
  · rename_i ht
    exact Seconds.within_bounds h.nonneg (Seconds.isNaN_of_isFinite ht)
  · exact ⟨Seconds.le_refl rfl, h.nonneg⟩

theorem Held.tick {p q : Playhead} (h : p.Held) {t : Seconds} {playing : Bool} (hq : p.tick? t playing = some q) :
    q.Held ∧ q.duration = p.duration := by
  unfold Playhead.tick? at hq
  split at hq
  · cases hq
  · rename_i hguard
    simp only [Bool.or_eq_true, Bool.not_eq_true', not_or, Bool.not_eq_false] at hguard
    cases hq
    have hbounds := Seconds.within_bounds h.nonneg (Seconds.isNaN_of_isFinite hguard.2)
    exact ⟨⟨hbounds.1, hbounds.2⟩, rfl⟩

theorem gesture?_held {p q : Playhead} {g : Gesture} (h : p.Held) (hg : ¬ p.Strays g) (hq : p.gesture? g = some q) :
    q.Held ∧ q.duration = p.duration := by
  cases g with
  | press =>
    replace hq : p.beginDrag? = some q := hq
    unfold beginDrag? at hq
    split at hq <;> cases hq
    exact ⟨⟨h.early, h.late⟩, rfl⟩
  | move x track =>
    replace hq : p.dragTo? x track = some q := hq
    unfold dragTo? at hq
    split at hq
    · rename_i hdrag
      cases hq
      exact ⟨h.moveTo fun hx => hg ⟨hdrag, hx⟩, rfl⟩
    · cases hq
  | release =>
    cases hq
    exact ⟨⟨h.early, h.late⟩, rfl⟩
  | clickTrack x track =>
    replace hq : p.clickTrack? x track = some q := hq
    unfold clickTrack? at hq
    split at hq
    · cases hq
    · rename_i hdrag
      cases hq
      exact ⟨h.moveTo fun hx => hg ⟨eq_false_of_ne_true hdrag, hx⟩, rfl⟩
  | clickRuler x track =>
    cases hq
    exact ⟨h.moveTo hg, rfl⟩
  | seek t =>
    cases hq
    exact ⟨h.seek t, rfl⟩
  | tick t playing => exact h.tick hq

/-- A gesture leaves the playhead within the project, whose length it does not touch. --/
theorem Held.after {p : Playhead} (h : p.Held) {g : Gesture} (hg : ¬ p.Strays g) :
    (p.after g).Held ∧ (p.after g).duration = p.duration := by
  unfold Playhead.after
  cases hq : p.gesture? g with
  | none => exact ⟨h, rfl⟩
  | some q => exact gesture?_held h hg hq

/-- A playhead that is told a new length takes it, and goes back to its end where it stood behind it. --/
theorem Held.setDuration {p : Playhead} (h : p.Held) {duration : Seconds} (hd : 0.0 ≤ duration)
    (hfinite : duration.isFinite = true) :
    (p.setDuration duration).Held ∧ (p.setDuration duration).duration = duration := by
  have hnum := Seconds.isNaN_of_isFinite hfinite
  have hlength : duration.lengthOrZero = duration := Seconds.lengthOrZero_of_nonneg hd hfinite
  have htime : (p.setDuration duration).time = if duration < p.time then duration else p.time := by
    rw [Playhead.setDuration, hlength]
  have hkept : (p.setDuration duration).duration = duration := hlength
  suffices hbounds : 0.0 ≤ (p.setDuration duration).time ∧ (p.setDuration duration).time ≤ duration from
    ⟨⟨hbounds.1, hkept.symm ▸ hbounds.2⟩, hkept⟩
  rw [htime]
  split
  · exact ⟨hd, Seconds.le_refl hnum⟩
  · rename_i hbehind
    obtain ⟨-, htimeNum, -⟩ := Seconds.le_iff_rank.mp h.early
    exact ⟨h.early, Seconds.le_of_not_lt hnum htimeNum hbehind⟩

end Playhead
end Cutroom
