import Cutroom.Proofs.Desk.Sized
import Cutroom.Proofs.Desk.Undone
import Cutroom.Proofs.Timeline.Ordered

/-! What becomes of the order of a lane when the length of the video becomes known. An upload puts an unsized clip on
    the timeline as its first one, and no edit makes another (`Session.Seeded`), so that of two neighbours only the first
    two can come to overlap: they do exactly if the second one starts before the length is over
    (`Session.setVideoLength_ordered_iff`). -/

namespace Cutroom

/-! ### Lanes -/

namespace Lane

/-- No clip of the lane is unsized, except for the first one. --/
def Seeded (lane : Lane) : Prop := Sized lane.tail

variable {lane next before parts after : Lane} {id fresh : Identifier} {c : Clip}

theorem Sized.seeded (h : lane.Sized) : lane.Seeded := fun c hc => h c (List.mem_of_mem_tail hc)

/-- Clips with a length can take the place of any clip. --/
theorem Seeded.replace (h : Seeded (before ++ c :: after)) (hparts : parts.Sized) :
    Seeded (before ++ parts ++ after) := by
  cases before with
  | nil =>
    have hafter : Sized after := h
    have hall : Sized (parts ++ after) := List.forall_mem_append.mpr ⟨hparts, hafter⟩
    exact hall.seeded
  | cons first before =>
    have hbehind : Sized (before ++ c :: after) := h
    obtain ⟨hbefore, hafter⟩ := List.forall_mem_append.mp hbehind
    refine List.forall_mem_append.mpr ⟨List.forall_mem_append.mpr ⟨hbefore, hparts⟩, fun d hd => ?_⟩
    exact hafter d (List.mem_cons_of_mem _ hd)

theorem Seeded.cut {t : Seconds} (h : lane.Seeded) (hcut : lane.cut id fresh t = .ok next) : next.Seeded := by
  obtain ⟨before, c, after, ⟨rfl, -, -⟩, hsplits, rfl⟩ := cut_eq_ok hcut
  refine h.replace fun d hd => ?_
  simp only [List.mem_cons, List.not_mem_nil, or_false] at hd
  rcases hd with rfl | rfl
  · exact leftPart_sized hsplits
  · exact rightPart_sized hsplits fresh

theorem Seeded.trim {step : Seconds} (h : lane.Seeded) (htrim : lane.trim id step = .ok next) : next.Seeded := by
  obtain ⟨before, c, after, ⟨rfl, -, -⟩, -, rfl⟩ := trim_eq_ok htrim
  refine h.replace fun d hd => ?_
  rw [List.mem_singleton.mp hd]
  exact trimmed_sized c step

theorem Seeded.delete (h : lane.Seeded) (hdelete : lane.delete id = .ok next) : next.Seeded := by
  obtain ⟨before, c, after, ⟨rfl, -, -⟩, rfl⟩ := delete_eq_ok hdelete
  rw [← List.append_nil before]
  exact h.replace nofun

theorem Seeded.append {name : String} {source : Option MediaRef} (h : lane.Seeded)
    (happend : lane.append fresh name source = .ok next) : next.Seeded := by
  unfold Lane.append Clip.create at happend
  split at happend
  · cases happend
    cases lane with
    | nil => exact nofun
    | cons first rest =>
      refine List.forall_mem_append.mpr ⟨h, fun d hd => ?_⟩
      rw [List.mem_singleton.mp hd]
      exact added_sized
  · cases happend

theorem stretch_eq_self_of_sized (h : lane.Sized) (duration : Seconds) : lane.stretch duration = lane := by
  refine stretch_eq_self ?_
  rw [stretches, Bool.and_eq_false_iff]
  exact .inr (eq_false_of_ne_true fun hany => any_isUnsized_iff.mp hany h)

/-- Only the first clip takes the length, so that only its neighbour matters. --/
theorem Seeded.stretch_ordered_iff {duration : Seconds} (h : lane.Seeded) (hd : duration.isLength = true)
    (hordered : lane.Ordered) :
    (lane.stretch duration).Ordered ↔
      ∀ seed next rest, lane = seed :: next :: rest → seed.isUnsized = true → duration ≤ next.start := by
  cases lane with
  | nil =>
    have hnone : Lane.stretch [] duration = [] := ite_self _
    rw [hnone]
    refine ⟨fun _ seed next rest hlane => ?_, fun _ => hordered⟩
    cases hlane
  | cons seed rest =>
    have hrest : Lane.stretch rest duration = rest := stretch_eq_self_of_sized h duration
    have hstretch : Lane.stretch (seed :: rest) duration =
        (if seed.isUnsized then { seed with stop := duration } else seed) :: rest := by
      rw [Lane.stretch, if_pos hd] at hrest ⊢
      rw [List.map_cons, hrest]
    rw [hstretch]
    cases hunsized : seed.isUnsized with
    | false =>
      refine ⟨fun _ first next rest hlane hfirst => ?_, fun _ => hordered⟩
      cases hlane
      rw [hunsized] at hfirst
      cases hfirst
    | true =>
      cases rest with
      | nil =>
        refine ⟨fun _ first next rest hlane => ?_, fun _ => List.isChain_singleton _⟩
        cases hlane
      | cons next rest =>
        obtain ⟨-, hbehind⟩ := List.isChain_cons_cons.mp hordered
        refine List.isChain_cons_cons.trans ⟨fun hchain => ?_, fun hnext => ?_⟩
        · intro first second others hlane _
          cases hlane
          exact hchain.1
        · exact ⟨hnext seed next rest rfl hunsized, hbehind⟩

end Lane

/-! ### Sessions -/

namespace Session

variable {s : Session}

/-- Only the first clip can be unsized, in the lane that is shown and in those that the history holds. --/
def Seeded : Session → Prop := Everywhere fun clips _ => clips.Seeded

theorem opened_seeded : opened.Seeded where
  shown := nofun
  states u hu := by
    rw [List.mem_singleton.mp hu]
    exact nofun

theorem Edit.seeded {clips audio : Lane} {made : Nat} (h : Edit s clips audio made) (hs : s.Seeded) :
    clips.Seeded := by
  have hclips : s.clips.Seeded := hs.shown
  cases h with
  | seed length source => exact nofun
  | cut hcut => exact hclips.cut hcut
  | trim htrim => exact hclips.trim htrim
  | delete hdelete => exact hclips.delete hdelete
  | media happend => exact hclips.append happend
  | music hadd => exact hclips

theorem Seeded.after (h : s.Seeded) (move : Move) : (s.after move).Seeded := by
  cases move with
  | act a =>
    refine (act_change s a).everywhere (fun edit => edit.seeded h) (fun length _ => ?_) h
    exact (Lane.stretch_sized length _).seeded
  | playhead | chat => exact ⟨h.shown, h.states⟩

theorem Seeded.follow (h : s.Seeded) (moves : List Move) : (s.follow moves).Seeded := by
  induction moves generalizing s with
  | nil => exact h
  | cons move moves ih => exact ih (h.after move)

/-- The length of the video becomes known while the clips are in time order. They stay so exactly if the first clip has
    a length already or stands alone, or the clip behind it starts no earlier than the length is over. --/
theorem setVideoLength_ordered_iff (moves : List Move) (s : Session) (hs : opened.follow moves = s)
    {duration : Seconds} (hd : duration.isLength = true) (hordered : s.clips.Ordered) :
    (s.setVideoLength duration).clips.Ordered ↔
      ∀ seed next rest, s.clips = seed :: next :: rest → seed.isUnsized = true → duration ≤ next.start := by
  have hseeded : s.Seeded := hs ▸ opened_seeded.follow moves
  rw [setVideoLength_clips hd]
  exact hseeded.shown.stretch_ordered_iff hd hordered

/-- Of two pieces of media behind a video of unknown length the first one is deleted. --/
def cleared : List Move :=
  [.act lengthless, .act (.addMedia "b.mp4" none), .act (.addMedia "c.mp4" none), .act (.select (some (.made 2))),
    .act .delete]

/-- A video of eight seconds fits into the gap. --/
theorem setVideoLength_ordered_iff_of_cleared :
    Seconds.isLength 8.0 = true ∧ (opened.follow cleared).clips.Ordered ∧
      (opened.follow cleared).clips.map Clip.start = [0.0, 10.0] ∧
      ((opened.follow cleared).setVideoLength 8.0).clips.Ordered := by
  have hd : Seconds.isLength 8.0 = true := by decide
  have hordered : (opened.follow cleared).clips.Ordered := by decide +kernel
  have hstarts : (opened.follow cleared).clips.map Clip.start = [0.0, 10.0] := by decide +kernel
  refine ⟨hd, hordered, hstarts, ?_⟩
  refine (setVideoLength_ordered_iff cleared _ rfl hd hordered).mpr fun seed next rest hclips _ => ?_
  rw [hclips] at hstarts
  simp only [List.map_cons, List.cons.injEq] at hstarts
  rw [hstarts.2.1]
  decide

/-- A video of unknown length with media behind it. --/
def hasty : List Move := [.act lengthless, .act (.addMedia "b.mp4" none)]

/-- The media starts where the video does, and is overlapped as soon as the length is known. --/
theorem media_overlapped :
    Seconds.isLength 30.0 = true ∧ (opened.follow hasty).clips.Ordered ∧
      ¬ ((opened.follow hasty).setVideoLength 30.0).clips.Ordered := by
  decide +kernel

end Session
end Cutroom
