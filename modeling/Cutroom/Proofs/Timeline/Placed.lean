import Cutroom.Proofs.Timeline.Rounded
import Cutroom.Proofs.Timeline.Sized

/-! Where the clips of a lane lie. A clip is placed if it lies at a finite place on the timeline, its end not before its
    start (`Clip.Placed`). Every edit of a lane of placed clips leaves one, and the furthest end over such lanes is a
    finite time that no clip lies behind (`contentEnd_bounds`). -/

namespace Cutroom

/-- The clip lies on the timeline and is not turned round. --/
structure Clip.Placed (c : Clip) : Prop where
  start : c.start.isFinite = true
  stop : c.stop.isFinite = true
  early : 0.0 ≤ c.start
  forward : c.start ≤ c.stop

namespace Clip

theorem placed_of_le {c : Clip} (hearly : 0.0 ≤ c.start) (hforward : c.start ≤ c.stop)
    (hstop : c.stop.isFinite = true) : c.Placed :=
  ⟨Seconds.isFinite_of_between hearly hforward rfl hstop, hstop, hearly, hforward⟩

theorem placed_of_isSpan {c : Clip} (h : isSpan c.start c.stop = true) : c.Placed := by
  simp only [isSpan, Bool.and_eq_true, Bool.not_eq_true', decide_eq_false_iff_not] at h
  obtain ⟨⟨⟨hstart, hstop⟩, hearly⟩, hforward⟩ := h
  have hstartNum := Seconds.isNaN_of_isFinite hstart
  have hstopNum := Seconds.isNaN_of_isFinite hstop
  exact ⟨hstart, hstop, Seconds.le_of_not_lt hstartNum rfl hearly, Seconds.le_of_not_lt hstopNum hstartNum hforward⟩

end Clip

namespace Lane

/-- All clips of the lane are placed. --/
def Placed (lane : Lane) : Prop := ∀ c ∈ lane, c.Placed

variable {lane next : Lane} {id fresh : Identifier} {name : String} {source : Option MediaRef}

theorem mainClip_placed (duration : Option Seconds) : (mainClip fresh duration source).Placed := by
  have hlength : ∀ d, (duration.filter Seconds.isLength).getD 0.0 = d → 0.0 ≤ d ∧ d.isFinite = true := by
    rintro d rfl
    cases hd : duration.filter Seconds.isLength with
    | none => exact ⟨Seconds.le_refl rfl, rfl⟩
    | some d =>
      obtain ⟨hpos, hfinite⟩ := Seconds.isLength_iff.mp (Option.filter_eq_some_iff.mp hd).2
      exact ⟨Seconds.le_of_lt hpos, hfinite⟩
  obtain ⟨hnonneg, hfinite⟩ := hlength _ rfl
  exact ⟨Seconds.isFinite_zero, hfinite, Seconds.le_refl rfl, hnonneg⟩

theorem Placed.cut {t : Seconds} (hp : lane.Placed) (h : lane.cut id fresh t = .ok next) : next.Placed := by
  obtain ⟨before, c, after, ⟨rfl, -, -⟩, hsplits, rfl⟩ := cut_eq_ok h
  obtain ⟨hstart, hstop⟩ := splits_iff.mp hsplits
  have hc := hp c (List.mem_append_right _ List.mem_cons_self)
  have hleft : (leftPart t c).Placed := by
    have hfinite := Seconds.isFinite_of_between (Seconds.le_of_lt hstart) (Seconds.le_of_lt hstop) hc.start hc.stop
    exact Clip.placed_of_le hc.early (Seconds.le_of_lt hstart) hfinite
  have hright : (rightPart fresh t c).Placed :=
    Clip.placed_of_le (Seconds.le_trans hc.early (Seconds.le_of_lt hstart)) (Seconds.le_of_lt hstop) hc.stop
  intro d hd
  simp only [List.mem_append, List.mem_cons, List.not_mem_nil, or_false] at hd
  rcases hd with (hd | rfl | rfl) | hd
  · exact hp d (List.mem_append_left _ hd)
  · exact hleft
  · exact hright
  · exact hp d (List.mem_append_right _ (List.mem_cons_of_mem _ hd))

/-- A trim keeps the minimum length, which makes the new end no earlier than the start, and the end comes earlier. --/
theorem trimmed_placed {c : Clip} {step : Seconds} (hc : c.Placed) (h : ¬ c.stop ≤ trimmedStop c step) :
    Clip.Placed { c with stop := trimmedStop c step } := by
  have hminimum : c.start ≤ c.start + minimumLength :=
    Seconds.le_add hc.early (Seconds.le_of_lt (by decide)) hc.start (by decide)
  obtain ⟨-, hnum, -⟩ := Seconds.le_iff_rank.mp hminimum
  have hforward : c.start ≤ trimmedStop c step := Seconds.le_trans hminimum (Seconds.le_later hnum)
  obtain ⟨-, htrimmed, -⟩ := Seconds.le_iff_rank.mp hforward
  have hback := Seconds.le_of_not_le (Seconds.isNaN_of_isFinite hc.stop) htrimmed h
  exact Clip.placed_of_le hc.early hforward (Seconds.isFinite_of_between hforward hback hc.start hc.stop)

theorem Placed.trim {step : Seconds} (hp : lane.Placed) (h : lane.trim id step = .ok next) : next.Placed := by
  obtain ⟨before, c, after, ⟨rfl, -, -⟩, hearlier, rfl⟩ := trim_eq_ok h
  have hc := trimmed_placed (hp c (List.mem_append_right _ List.mem_cons_self)) hearlier
  intro d hd
  simp only [List.mem_append, List.mem_cons, List.not_mem_nil, or_false] at hd
  rcases hd with (hd | rfl) | hd
  · exact hp d (List.mem_append_left _ hd)
  · exact hc
  · exact hp d (List.mem_append_right _ (List.mem_cons_of_mem _ hd))

theorem Placed.delete (hp : lane.Placed) (h : lane.delete id = .ok next) : next.Placed :=
  fun c hc => hp c (delete_subset h hc)

/-- Where a clip is made and added, its span is checked. --/
theorem Placed.added {start stop : Seconds} (hp : lane.Placed)
    (h : ((Clip.create fresh name start stop source).map fun c => lane ++ [c]) = .ok next) : next.Placed := by
  unfold Clip.create at h
  split at h
  · rename_i hspan
    cases h
    intro c hc
    rcases List.mem_append.mp hc with hc | hc
    · exact hp c hc
    · rw [List.mem_singleton.mp hc]
      exact Clip.placed_of_isSpan hspan
  · cases h

theorem Placed.append (hp : lane.Placed) (h : lane.append fresh name source = .ok next) : next.Placed := hp.added h

theorem Placed.addMusic {duration : Seconds} (hp : lane.Placed)
    (h : lane.addMusic fresh name source duration = .ok next) : next.Placed := hp.added h

theorem Placed.stretch (hp : lane.Placed) (duration : Seconds) : (lane.stretch duration).Placed := by
  unfold Lane.stretch
  split
  · rename_i hlength
    obtain ⟨hpos, hfinite⟩ := Seconds.isLength_iff.mp hlength
    intro c hc
    obtain ⟨c, hmem, rfl⟩ := List.mem_map.mp hc
    split
    · rename_i hunsized
      rw [Clip.isUnsized, Bool.and_eq_true] at hunsized
      have hc := hp c hmem
      exact Clip.placed_of_le hc.early (Seconds.le_of_lt (Seconds.lt_of_zero hunsized.1 hpos)) hfinite
    · exact hp c hmem
  · exact hp

end Lane

/-! ### The furthest end -/

/-- Later and later ends, from a finite time on. --/
theorem foldl_later_bounds (stops : List Seconds) {first : Seconds} (hfirst : first.isFinite = true)
    (hstops : ∀ t ∈ stops, t.isFinite = true) :
    (stops.foldl Seconds.later first).isFinite = true ∧ first ≤ stops.foldl Seconds.later first ∧
      ∀ t ∈ stops, t ≤ stops.foldl Seconds.later first := by
  induction stops generalizing first with
  | nil => exact ⟨hfirst, Seconds.le_refl (Seconds.isNaN_of_isFinite hfirst), nofun⟩
  | cons t rest ih =>
    have ht := hstops t List.mem_cons_self
    have hfirstNum := Seconds.isNaN_of_isFinite hfirst
    have htNum := Seconds.isNaN_of_isFinite ht
    have hlater : (Seconds.later first t).isFinite = true ∧ first ≤ Seconds.later first t := by
      rcases Seconds.later_cases hfirstNum htNum with ⟨hle, heq⟩ | ⟨-, heq⟩ <;> rw [heq]
      · exact ⟨ht, hle⟩
      · exact ⟨hfirst, Seconds.le_refl hfirstNum⟩
    obtain ⟨hfinite, hle, hrest⟩ := ih hlater.1 fun u hu => hstops u (List.mem_cons_of_mem _ hu)
    refine ⟨hfinite, Seconds.le_trans hlater.2 hle, fun u hu => ?_⟩
    rcases List.mem_cons.mp hu with rfl | hu
    · exact Seconds.le_trans (Seconds.le_later htNum) hle
    · exact hrest u hu

/-- The furthest end over placed clips is a finite time, and no clip ends behind it. --/
theorem contentEnd_bounds {clips audio : Lane} (hclips : clips.Placed) (haudio : audio.Placed) :
    (contentEnd clips audio).isFinite = true ∧ 0.0 ≤ contentEnd clips audio ∧
      ∀ c ∈ clips ++ audio, c.stop ≤ contentEnd clips audio := by
  have hstops : ∀ t ∈ (clips ++ audio).map Clip.stop, t.isFinite = true := by
    intro t ht
    obtain ⟨c, hc, rfl⟩ := List.mem_map.mp ht
    rcases List.mem_append.mp hc with hc | hc
    · exact (hclips c hc).stop
    · exact (haudio c hc).stop
  obtain ⟨hfinite, hnonneg, hle⟩ := foldl_later_bounds _ Seconds.isFinite_zero hstops
  exact ⟨hfinite, hnonneg, fun c hc => hle _ (List.mem_map_of_mem hc)⟩

end Cutroom
