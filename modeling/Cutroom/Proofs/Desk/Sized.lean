import Cutroom.Job.Script
import Cutroom.Proofs.Desk.Change
import Cutroom.Proofs.Desk.Whole
import Cutroom.Proofs.Timeline.Sized

/-! What becomes of unsized clips once the length of the video is known. Only an upload makes one, under the identifier
    that is made then (`Change.unsized`). The lane that is shown loses all of them; the states of the history lose them
    exactly if one was shown or none was stored (`Session.setVideoLength_leaves_iff`), since what is stored can be shown
    again (`Session.exists_shows`). -/

namespace Cutroom
namespace Session

/-- A clip is in the lane that is shown or in a state of the history. --/
def Has (s : Session) (c : Clip) : Prop := c ∈ s.clips ∨ ∃ t ∈ s.history.states, c ∈ t.clips

/-- No state of the history has an unsized clip. --/
def Settled (s : Session) : Prop := ∀ t ∈ s.history.states, t.clips.Sized

variable {s t : Session} {c : Clip}

/-! ### Where unsized clips come from -/

theorem Edit.unsized {clips audio : Lane} {made : Nat} (h : Edit s clips audio made) (hu : c.isUnsized = true)
    (hc : c ∈ clips) : c ∈ s.clips ∨ c.id = s.fresh := by
  cases h with
  | seed length source => exact .inr (List.mem_singleton.mp hc ▸ rfl)
  | cut hcut => exact .inl (Lane.cut_unsized hcut hc hu)
  | trim htrim => exact .inl (Lane.trim_unsized htrim hc hu)
  | delete hdelete => exact .inl (Lane.delete_subset hdelete hc)
  | media happend => exact .inl (Lane.append_unsized happend hc hu)
  | music hadd => exact .inl hc

theorem Edit.made_le {clips audio : Lane} {made : Nat} (h : Edit s clips audio made) : s.made ≤ made := by
  cases h with
  | seed | cut | media | music => exact Nat.le_succ _
  | trim | delete => exact Nat.le_refl _

theorem Change.made_le (h : Change s t) : s.made ≤ t.made := by
  cases h with
  | kept _ _ _ made => exact made
  | edited edit _ => exact edit.made_le
  | shown _ _ made => exact Nat.le_of_eq made.symm
  | stretched _ _ _ _ _ made => exact Nat.le_of_eq made.symm

/-- An unsized clip was there before, or has the identifier that was made just then. --/
theorem Change.unsized (h : Change s t) (hu : c.isUnsized = true) (hc : t.Has c) : s.Has c ∨ c.id = s.fresh := by
  cases h with
  | kept clips audio history made =>
    unfold Has at hc
    rw [clips, history] at hc
    exact .inl hc
  | edited edit history =>
    have hnew := edit.unsized hu
    rw [Has, history] at hc
    rcases hc with hc | ⟨u, hstored, hc⟩
    · exact (hnew hc).imp_left .inl
    · rcases History.mem_push hstored with hstored | rfl
      · exact .inl (.inr ⟨u, hstored, hc⟩)
      · exact (hnew hc).imp_left .inl
  | shown states lanes made =>
    rw [Has, states] at hc
    rcases hc with hc | hc
    · refine .inl (.inr ⟨t.history.current, states ▸ History.current_mem _, ?_⟩)
      rw [lanes]
      exact hc
    · exact .inl (.inr hc)
  | stretched duration length clips audio history made =>
    have hsized : ∀ lane : Lane, c ∉ lane.stretch duration := fun lane hmem => by
      rw [Lane.stretch_sized length lane c hmem] at hu
      cases hu
    rw [Has, clips, history] at hc
    rcases hc with hc | ⟨u, hstored, hc⟩
    · exact absurd hc (hsized _)
    · split at hstored
      · obtain ⟨v, -, rfl⟩ := History.mem_amend hstored
        exact absurd hc (hsized _)
      · exact .inl (.inr ⟨u, hstored, hc⟩)

/-- After any actions an unsized clip was there before, or has an identifier that was made on the way. --/
theorem run_unsized (hu : c.isUnsized = true) (actions : List Action) (hc : (s.run actions).Has c) :
    s.Has c ∨ ∃ n, s.made < n ∧ c.id = .made n := by
  induction actions generalizing s with
  | nil => exact .inl hc
  | cons a rest ih =>
    have hchange := act_change s a
    rcases ih hc with hc | ⟨n, hn, hid⟩
    · exact (hchange.unsized hu hc).imp_right fun hid => ⟨s.made + 1, Nat.lt_succ_self _, hid⟩
    · exact .inr ⟨n, Nat.lt_of_le_of_lt hchange.made_le hn, hid⟩

/-! ### Every state can be shown -/

theorem undo_history (h : 0 < s.history.index) : (s.act .undo).2.history.states = s.history.states ∧
    (s.act .undo).2.history.index = s.history.index - 1 := by
  simp only [act, undo?, History.undo?, if_pos h, Option.map_some]
  exact ⟨rfl, rfl⟩

theorem redo_history (h : s.history.index + 1 < s.history.states.length) :
    (s.act .redo).2.history.states = s.history.states ∧
      (s.act .redo).2.history.index = s.history.index + 1 := by
  simp only [act, redo?, History.redo?, dif_pos h, Option.map_some]
  exact ⟨rfl, rfl⟩

theorem run_undos (n : Nat) (h : n ≤ s.history.index) :
    (s.run (List.replicate n .undo)).history.states = s.history.states ∧
      (s.run (List.replicate n .undo)).history.index = s.history.index - n := by
  induction n generalizing s with
  | zero => exact ⟨rfl, rfl⟩
  | succ n ih =>
    obtain ⟨hstates, hindex⟩ := undo_history (s := s) (by omega)
    obtain ⟨hrest, hlast⟩ := ih (s := (s.act .undo).2) (by omega)
    refine ⟨hrest.trans hstates, hlast.trans ?_⟩
    omega

theorem run_redos (n : Nat) (h : s.history.index + n < s.history.states.length) :
    (s.run (List.replicate n .redo)).history.states = s.history.states ∧
      (s.run (List.replicate n .redo)).history.index = s.history.index + n := by
  induction n generalizing s with
  | zero => exact ⟨rfl, rfl⟩
  | succ n ih =>
    obtain ⟨hstates, hindex⟩ := redo_history (s := s) (by omega)
    obtain ⟨hrest, hlast⟩ := ih (s := (s.act .redo).2) (by rw [hstates]; omega)
    refine ⟨hrest.trans hstates, hlast.trans ?_⟩
    omega

/-- Undoing or redoing often enough shows any state of the history. --/
theorem exists_shows (h : Whole s) {u : Snapshot} (hu : u ∈ s.history.states) :
    ∃ steps : List Action, (∀ a ∈ steps, a = .undo ∨ a = .redo) ∧ (s.run steps).clips = u.clips := by
  obtain ⟨i, hi, rfl⟩ := List.getElem_of_mem hu
  have hshows : ∀ steps : List Action, (s.run steps).history.states = s.history.states →
      (s.run steps).history.index = i → (s.run steps).clips = s.history.states[i].clips := by
    intro steps hstates hindex
    have hcurrent := (h.run steps).shown
    have hstate : (s.run steps).history.current = s.history.states[i] := by
      unfold History.current
      simp only [List.get_eq_getElem, hstates, hindex]
    rw [← hstate, hcurrent]
  rcases Nat.le_total i s.history.index with hle | hle
  · obtain ⟨hstates, hindex⟩ := run_undos (s := s) (s.history.index - i) (Nat.sub_le _ _)
    refine ⟨_, fun a ha => .inl (List.eq_of_mem_replicate ha), hshows _ hstates ?_⟩
    omega
  · obtain ⟨hstates, hindex⟩ := run_redos (s := s) (i - s.history.index) (by omega)
    refine ⟨_, fun a ha => .inr (List.eq_of_mem_replicate ha), hshows _ hstates ?_⟩
    omega

/-! ### The length becomes known -/

variable {duration : Seconds}

theorem setVideoLength_clips (hd : duration.isLength = true) :
    (s.setVideoLength duration).clips = s.clips.stretch duration := by
  simp only [setVideoLength, hd, if_true]
  rfl

theorem setVideoLength_history (hd : duration.isLength = true) : (s.setVideoLength duration).history =
    if s.clips.stretches duration then s.history.amend fun u => u.stretch duration else s.history := by
  simp only [setVideoLength, hd, if_true]
  rfl

theorem setVideoLength_made : (s.setVideoLength duration).made = s.made := by
  unfold setVideoLength
  split <;> rfl

theorem setVideoLength_sized (hd : duration.isLength = true) : (s.setVideoLength duration).clips.Sized := by
  rw [setVideoLength_clips hd]
  exact Lane.stretch_sized hd s.clips

theorem setVideoLength_settled_iff (hd : duration.isLength = true) :
    (s.setVideoLength duration).Settled ↔ ¬ s.clips.Sized ∨ s.Settled := by
  rw [Settled, setVideoLength_history hd]
  split
  · rename_i hstretches
    have hshown := (Lane.stretches_iff hd).mp hstretches
    refine ⟨fun _ => .inl hshown, fun _ u hu => ?_⟩
    obtain ⟨v, -, rfl⟩ := History.mem_amend hu
    exact Lane.stretch_sized hd v.clips
  · rename_i hstretches
    have hshown : s.clips.Sized := Decidable.of_not_not (mt (Lane.stretches_iff hd).mpr hstretches)
    exact ⟨.inr, fun hsettled => hsettled.resolve_left (not_not_intro hshown)⟩

/-- No unsized clip comes back later, whatever is done, exactly if none is left in the history. --/
theorem Whole.settled_iff (h : Whole s) (hshown : s.clips.Sized) :
    s.Settled ↔ ∀ later : List Action, ∀ c ∈ (s.run later).clips, c.isUnsized = true →
      ∃ n, s.made < n ∧ c.id = .made n := by
  constructor
  · intro hsettled later c hc hu
    refine (run_unsized hu later (.inl hc)).resolve_left ?_
    rintro (hc | ⟨u, hstored, hc⟩)
    · rw [hshown c hc] at hu
      cases hu
    · rw [hsettled u hstored c hc] at hu
      cases hu
  · intro hgone u hu c hc
    refine eq_false_of_ne_true fun hunsized => ?_
    obtain ⟨steps, -, hclips⟩ := exists_shows h hu
    obtain ⟨n, hn, hid⟩ := hgone steps c (hclips ▸ hc) hunsized
    obtain ⟨m, hm, hid'⟩ := (h.states u hu).made c.id (List.mem_append_left _ (List.mem_map_of_mem hc))
    rw [hid'] at hid
    cases hid
    omega

/-- When the length of the video becomes known, the history keeps its size and what it shows, and no unsized clip is
    shown any more. None is left in the history, and so none that was made before can come back, exactly if one was shown
    or the history had none. --/
theorem setVideoLength_leaves_iff (actions : List Action) (hd : duration.isLength = true)
    (hs : s = opened.run actions) :
    (s.setVideoLength duration).history.size = s.history.size ∧
      (s.setVideoLength duration).history.index = s.history.index ∧
      (s.setVideoLength duration).clips.Sized ∧
      ((∀ t ∈ (s.setVideoLength duration).history.states, t.clips.Sized) ↔
        ¬ s.clips.Sized ∨ ∀ t ∈ s.history.states, t.clips.Sized) ∧
      ((∀ later : List Action, ∀ c ∈ ((s.setVideoLength duration).run later).clips, c.isUnsized = true →
          ∃ n, s.made < n ∧ c.id = .made n) ↔
        ¬ s.clips.Sized ∨ ∀ t ∈ s.history.states, t.clips.Sized) := by
  have hwhole : Whole s := hs ▸ opened_whole.run actions
  have hshown := setVideoLength_sized (s := s) hd
  have hgone := (hwhole.setVideoLength duration).settled_iff hshown
  rw [setVideoLength_made] at hgone
  refine ⟨?_, ?_, hshown, setVideoLength_settled_iff hd, hgone.symm.trans (setVideoLength_settled_iff hd)⟩
  · rw [setVideoLength_history hd]
    split
    · exact List.length_map _
    · rfl
  · rw [setVideoLength_history hd]
    split <;> rfl

/-- A video of unknown length is uploaded. --/
def lengthless : Action :=
  .uploaded ⟨Script.job, none, .other "UPLOADED"⟩ (.remote "scripted://jobs/job-1/download")

/-- Its clip takes the length also where it is stored: in front of added media. --/
theorem setVideoLength_leaves_iff_of_lengthless :
    Seconds.isLength 30.0 = true ∧ ¬ (opened.run [lengthless, .addMedia "b.mp4" none]).clips.Sized ∧
      ∀ t ∈ ((opened.run [lengthless, .addMedia "b.mp4" none]).setVideoLength 30.0).history.states, t.clips.Sized := by
  have hd : Seconds.isLength 30.0 = true := by decide
  have hshown : ¬ (opened.run [lengthless, .addMedia "b.mp4" none]).clips.Sized := by decide
  obtain ⟨-, -, -, hsettled, -⟩ := setVideoLength_leaves_iff [lengthless, .addMedia "b.mp4" none] hd rfl
  exact ⟨hd, hshown, hsettled.mpr (.inl hshown)⟩

/-- When it was deleted, it misses the length, and comes back without one. --/
theorem deleted_comes_back :
    Seconds.isLength 30.0 = true ∧
      (∃ t ∈ ((opened.run [lengthless, .delete]).setVideoLength 30.0).history.states, ¬ t.clips.Sized) ∧
      ¬ (((opened.run [lengthless, .delete]).setVideoLength 30.0).run [.undo]).clips.Sized := by
  decide

end Session
end Cutroom
