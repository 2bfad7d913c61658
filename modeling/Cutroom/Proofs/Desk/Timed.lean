import Cutroom.Job.Script
import Cutroom.Proofs.Desk.Change
import Cutroom.Proofs.Timeline.Held
import Cutroom.Proofs.Timeline.Placed

/-! The times of a session (`Session.run_timed`). All clips are placed, also those that only the history holds
    (`Session.Laid`), and none ends behind the end of the project. The playhead knows where that is, and stands within
    the project. -/

namespace Cutroom

/-- A length that is reported with an upload is finite, and so is the track that a gesture concerns. --/
def Action.Finite : Action → Prop
  | .gesture g => g.Finite
  | .uploaded receipt _ => ∀ d, receipt.duration = some d → d.isFinite = true
  | _ => True

namespace Session

variable {s t next : Session}

/-! ### Lanes -/

/-- The clips that are shown and those of all states of the history are placed. --/
structure Laid (s : Session) : Prop where
  clips : s.clips.Placed
  audio : s.audio.Placed
  states : ∀ u ∈ s.history.states, u.clips.Placed ∧ u.audio.Placed

theorem opened_laid : Laid opened where
  clips := nofun
  audio := nofun
  states u hu := by
    rw [List.mem_singleton.mp hu]
    exact ⟨nofun, nofun⟩

theorem Edit.placed {clips audio : Lane} {made : Nat} (h : Edit s clips audio made) (hs : s.Laid) :
    clips.Placed ∧ audio.Placed := by
  cases h with
  | seed length source =>
    refine ⟨fun c hc => ?_, hs.audio⟩
    rw [List.mem_singleton.mp hc]
    exact Lane.mainClip_placed length
  | cut hcut => exact ⟨hs.clips.cut hcut, hs.audio⟩
  | trim htrim => exact ⟨hs.clips.trim htrim, hs.audio⟩
  | delete hdelete => exact ⟨hs.clips.delete hdelete, hs.audio⟩
  | media happend => exact ⟨hs.clips.append happend, hs.audio⟩
  | music hadd => exact ⟨hs.clips, hs.audio.addMusic hadd⟩

theorem Change.laid (h : Change s t) (hs : s.Laid) : t.Laid := by
  have hall : t.Everywhere fun clips audio => clips.Placed ∧ audio.Placed :=
    h.everywhere (fun edit => edit.placed hs) (fun _ hplaced => ⟨hplaced.1.stretch _, hplaced.2⟩)
      ⟨⟨hs.clips, hs.audio⟩, hs.states⟩
  exact ⟨hall.shown.1, hall.shown.2, hall.states⟩

/-- The length of a project whose clips are placed: a finite time that no clip ends behind. --/
theorem Laid.length_bounds (hs : s.Laid) (hvideo : ∀ d, s.videoLength = some d → d.isLength = true) :
    s.length.isFinite = true ∧ 0.0 ≤ s.length ∧ ∀ c ∈ s.clips ++ s.audio, c.stop ≤ s.length := by
  obtain ⟨hfinite, hnonneg, hstops⟩ := contentEnd_bounds hs.clips hs.audio
  have hend := Seconds.isNaN_of_isFinite hfinite
  have hknown : ∀ d, s.videoLength.getD 0.0 = d → d.isFinite = true := by
    rintro d rfl
    cases hd : s.videoLength with
    | none => exact Seconds.isFinite_zero
    | some d => exact (Seconds.isLength_iff.mp (hvideo d hd)).2
  have hlater : contentEnd s.clips s.audio ≤ s.length := Seconds.le_later hend
  refine ⟨?_, Seconds.le_trans hnonneg hlater, fun c hc => Seconds.le_trans (hstops c hc) hlater⟩
  rcases Seconds.later_cases (Seconds.isNaN_of_isFinite (hknown _ rfl)) hend with ⟨-, heq⟩ | ⟨-, heq⟩
  · rw [length, heq]
    exact hfinite
  · rw [length, heq]
    exact hknown _ rfl

/-! ### The playhead -/

/-- What becomes of the playhead: nothing, as long as the project is as long as it was; a gesture moves it; or it is
    told the length of the project. --/
inductive Tells (s t : Session) : Prop where
  | kept (video : t.videoLength = s.videoLength) (length : t.length = s.length) (playhead : t.playhead = s.playhead)
  | moved {g : Gesture} (finite : g.Finite) (video : t.videoLength = s.videoLength) (length : t.length = s.length)
      (playhead : t.playhead = s.playhead.after g)
  | measured (video : ∀ d, t.videoLength = some d → s.videoLength = some d ∨ d.isLength = true)
      (playhead : t.playhead = s.playhead.setDuration t.length)

theorem Tells.refl (s : Session) : Tells s s := .kept rfl rfl rfl

theorem Tells.ifCurrent (job : JobId) (h : Tells s next) : Tells s (s.ifCurrent job next) := by
  unfold Session.ifCurrent
  split
  · exact h
  · exact .refl s

theorem setVideoLength_tells (duration : Seconds) (video : t.videoLength = s.videoLength) (length : t.length = s.length)
    (playhead : t.playhead = s.playhead) : Tells s (t.setVideoLength duration) := by
  unfold setVideoLength
  split
  · rename_i hlength
    refine .measured (fun d hd => ?_) (congrArg (Playhead.setDuration · _) playhead)
    cases hd
    exact .inr hlength
  · exact .kept video length playhead

theorem uploaded_tells (s : Session) {receipt : Receipt} (h : ∀ d, receipt.duration = some d → d.isFinite = true)
    (source : VideoSource) : Tells s (s.uploaded receipt source) := by
  refine .measured (fun d hd => ?_) rfl
  obtain ⟨hsome, hpos⟩ := Option.filter_eq_some_iff.mp hd
  exact .inr (Seconds.isLength_iff.mpr ⟨of_decide_eq_true hpos, h d hsome⟩)

theorem select_tells {clip : Option Identifier} (h : s.select clip = .ok next) : Tells s next := by
  unfold select at h
  cases clip with
  | none =>
    cases h
    exact .kept rfl rfl rfl
  | some id =>
    dsimp only at h
    split at h <;> cases h
    exact .kept rfl rfl rfl

theorem cut_tells (h : s.cut = .ok next) : Tells s next := by
  unfold cut at h
  split at h
  · cases h
  · split at h <;> cases h
    exact .measured (fun _ => .inl) rfl

theorem trim_tells (h : s.trim = .ok next) : Tells s next := by
  unfold trim at h
  split at h
  · cases h
  · split at h <;> cases h
    exact .measured (fun _ => .inl) rfl

theorem delete_tells (h : s.delete = .ok next) : Tells s next := by
  unfold delete at h
  split at h
  · cases h
  · split at h <;> cases h
    exact .measured (fun _ => .inl) rfl

theorem addMedia_tells {name : String} {source : Option MediaRef} (h : s.addMedia name source = .ok next) :
    Tells s next := by
  unfold addMedia at h
  split at h
  · cases h
  · split at h <;> cases h
    exact .measured (fun _ => .inl) rfl

theorem addMusic_tells {name : String} {source : Option MediaRef} (h : s.addMusic name source = .ok next) :
    Tells s next := by
  unfold addMusic at h
  split at h
  · cases h
  · split at h <;> cases h
    exact .measured (fun _ => .inl) rfl

theorem restore_tells (s : Session) (history : History Snapshot) : Tells s (s.restore history) :=
  .measured (fun _ => .inl) rfl

theorem observe_tells (s : Session) (job : JobId) (report : StatusReport) : Tells s (s.observe job report) := by
  refine Tells.ifCurrent job ?_
  cases report.duration with
  | none => exact .kept rfl rfl rfl
  | some duration => exact setVideoLength_tells duration rfl rfl rfl

theorem apply_tells (s : Session) (event : JobEvent) : Tells s (s.apply event).2 := by
  cases event with
  | status job report => exact observe_tells s job report
  | completed | pollError => exact .refl s
  | chatOnly | failed | refreshFailed | timedOut => exact .ifCurrent _ (.kept rfl rfl rfl)

theorem beginPrompt_tells (s : Session) (text : String) : Tells s (s.beginPrompt text).2 := by
  unfold beginPrompt
  dsimp only
  split
  · exact .refl s
  · split
    · exact .refl s
    · split <;> exact .kept rfl rfl rfl

theorem edited_tells (answer : Session → Answer) {outcome : Except SessionError Session}
    (h : ∀ {next}, outcome = .ok next → Tells s next) : Tells s (s.edited answer outcome).2 := by
  cases outcome with
  | error e => exact .refl s
  | ok next => exact h rfl

theorem tried_tells {outcome : Option Session} (h : ∀ {next}, outcome = some next → Tells s next) :
    Tells s (s.tried outcome).2 := by
  cases outcome with
  | none => exact .refl s
  | some next => exact h rfl

theorem act_tells (s : Session) {a : Action} (ha : a.Finite) : Tells s (s.act a).2 := by
  cases a with
  | gesture g => exact .moved ha rfl rfl rfl
  | zoomIn | zoomOut | uploadFailed | adjust | promptFailed | exportFailed | takeAlerts | say | addText | addSticker =>
    exact .kept rfl rfl rfl
  | uploaded receipt source => exact uploaded_tells s ha source
  | setVideoLength duration => exact setVideoLength_tells duration rfl rfl rfl
  | select clip => exact edited_tells _ select_tells
  | cut => exact edited_tells _ cut_tells
  | trim => exact edited_tells _ trim_tells
  | delete => exact edited_tells _ delete_tells
  | addMedia name source => exact edited_tells _ addMedia_tells
  | addMusic name source => exact edited_tells _ addMusic_tells
  | undo =>
    refine tried_tells fun h => ?_
    obtain ⟨history, -, rfl⟩ := Option.map_eq_some_iff.mp h
    exact restore_tells s history
  | redo =>
    refine tried_tells fun h => ?_
    obtain ⟨history, -, rfl⟩ := Option.map_eq_some_iff.mp h
    exact restore_tells s history
  | applyEffect name =>
    refine edited_tells _ fun h => ?_
    unfold applyEffect at h
    split at h <;> cases h
    exact .kept rfl rfl rfl
  | applyTransition name =>
    refine edited_tells _ fun h => ?_
    unfold applyTransition at h
    split at h <;> cases h
    exact .kept rfl rfl rfl
  | applyFilter id =>
    refine edited_tells _ fun h => ?_
    unfold applyFilter at h
    split at h <;> cases h
    exact .kept rfl rfl rfl
  | applyPreset name =>
    refine edited_tells _ fun h => ?_
    unfold applyPreset at h
    split at h <;> cases h
    exact .kept rfl rfl rfl
  | beginPrompt text =>
    have hbegin := beginPrompt_tells s text
    simp only [act]
    rcases hb : s.beginPrompt text with ⟨_ | job, next⟩ <;> rw [hb] at hbegin
    · exact hbegin
    · exact hbegin
  | observe job report => exact observe_tells s job report
  | editCompleted | editAnswered | editFailed | renderUnavailable | editTimedOut =>
    exact .ifCurrent _ (.kept rfl rfl rfl)
  | editCancelled =>
    refine tried_tells fun h => ?_
    unfold editCancelled? at h
    split at h <;> cases h
    exact .kept rfl rfl rfl
  | event e => exact apply_tells s e

/-! ### Sessions -/

/-- The clips are placed, the video has a length if one is known, and the playhead stands within a project whose length
    it has been told. --/
structure Timed (s : Session) : Prop where
  laid : s.Laid
  video : ∀ d, s.videoLength = some d → d.isLength = true
  duration : s.playhead.duration = s.length
  held : s.playhead.Held

theorem opened_timed : Timed opened where
  laid := opened_laid
  video := nofun
  duration := rfl
  held := ⟨Seconds.le_refl rfl, Seconds.le_refl rfl⟩

theorem Timed.step (hs : s.Timed) (hlaid : t.Laid) (h : Tells s t) : t.Timed := by
  cases h with
  | kept video length playhead =>
    exact ⟨hlaid, video ▸ hs.video, by rw [playhead, length, hs.duration], playhead ▸ hs.held⟩
  | moved finite video length playhead =>
    obtain ⟨hheld, hduration⟩ := hs.held.after (Playhead.not_strays_of_finite finite _)
    exact ⟨hlaid, video ▸ hs.video, by rw [playhead, length, hduration, hs.duration], playhead ▸ hheld⟩
  | measured video playhead =>
    -- The new length is finite because the lanes are placed; the playhead takes no other.
    have hvideo : ∀ d, t.videoLength = some d → d.isLength = true := by
      intro d hd
      rcases video d hd with hd | hlength
      · exact hs.video d hd
      · exact hlength
    obtain ⟨hfinite, hnonneg, -⟩ := hlaid.length_bounds hvideo
    obtain ⟨hheld, hduration⟩ := hs.held.setDuration hnonneg hfinite
    exact ⟨hlaid, hvideo, by rw [playhead, hduration], playhead ▸ hheld⟩

theorem Timed.act (hs : s.Timed) {a : Action} (ha : a.Finite) : (s.act a).2.Timed :=
  hs.step ((act_change s a).laid hs.laid) (act_tells s ha)

theorem Timed.run (hs : s.Timed) {actions : List Action} (h : ∀ a ∈ actions, a.Finite) : (s.run actions).Timed := by
  induction actions generalizing s with
  | nil => exact hs
  | cons a rest ih => exact ih (hs.act (h a List.mem_cons_self)) fun b hb => h b (List.mem_cons_of_mem _ hb)

/-- After any actions every clip, also of a state that the history holds, lies at a finite place with its start
    neither before zero nor behind its end. No clip that is shown ends behind the end of the project, which the
    playhead knows and stands before. --/
theorem run_timed (actions : List Action) (h : ∀ a ∈ actions, a.Finite) :
    (∀ c ∈ (opened.run actions).clips ++ (opened.run actions).audio,
        c.start.isFinite = true ∧ c.stop.isFinite = true ∧ 0.0 ≤ c.start ∧ c.start ≤ c.stop ∧
          c.stop ≤ (opened.run actions).length) ∧
      (∀ u ∈ (opened.run actions).history.states, ∀ c ∈ u.clips ++ u.audio,
        c.start.isFinite = true ∧ c.stop.isFinite = true ∧ 0.0 ≤ c.start ∧ c.start ≤ c.stop) ∧
      (opened.run actions).playhead.duration = (opened.run actions).length ∧
      0.0 ≤ (opened.run actions).playhead.time ∧
      (opened.run actions).playhead.time ≤ (opened.run actions).playhead.duration := by
  have hrun := opened_timed.run h
  have hplaced : ∀ {clips audio : Lane}, clips.Placed → audio.Placed → ∀ c ∈ clips ++ audio, c.Placed := by
    intro clips audio hclips haudio c hc
    rcases List.mem_append.mp hc with hc | hc
    · exact hclips c hc
    · exact haudio c hc
  obtain ⟨-, -, hstops⟩ := hrun.laid.length_bounds hrun.video
  refine ⟨fun c hc => ?shown, fun u hu c hc => ?stored, hrun.duration, hrun.held.early, hrun.held.late⟩
  case shown =>
    have hclip := hplaced hrun.laid.clips hrun.laid.audio c hc
    exact ⟨hclip.start, hclip.stop, hclip.early, hclip.forward, hstops c hc⟩
  case stored =>
    obtain ⟨hclips, haudio⟩ := hrun.laid.states u hu
    have hclip := hplaced hclips haudio c hc
    exact ⟨hclip.start, hclip.stop, hclip.early, hclip.forward⟩

/-- A video is cut, the first part trimmed, music added and taken back, and the pointer goes to the middle. --/
def rehearsal : List Action :=
  [.uploaded ⟨Script.job, some 30.0, .other "UPLOADED"⟩ (.remote "scripted://jobs/job-1/download"),
    .gesture (.seek 12.0), .cut, .trim, .addMusic "song" none, .undo,
    .gesture (.clickTrack 100.0 ⟨0.0, 200.0, 0.0⟩)]

/-- The pointer was sent to half of a project that reaches to the end of the second part. --/
theorem run_timed_of_rehearsal :
    (∀ a ∈ rehearsal, a.Finite) ∧ (opened.run rehearsal).clips.map Clip.stop = [11.0, 30.0] ∧
      (opened.run rehearsal).playhead.time = 15.0 ∧
      ∀ u ∈ (opened.run rehearsal).history.states, ∀ c ∈ u.clips ++ u.audio, 0.0 ≤ c.start ∧ c.start ≤ c.stop := by
  have hfinite : ∀ a ∈ rehearsal, a.Finite := by
    have hreceipt : ∀ d, some (30.0 : Seconds) = some d → d.isFinite = true := by
      intro d hd
      cases hd
      decide
    have htrack : Track.Finite ⟨0.0, 200.0, 0.0⟩ := ⟨Seconds.isFinite_zero, by decide, Seconds.isFinite_zero⟩
    simp only [rehearsal, List.forall_mem_cons]
    exact ⟨hreceipt, trivial, trivial, trivial, trivial, trivial, htrack, List.forall_mem_nil _⟩
  obtain ⟨-, hstored, -⟩ := run_timed rehearsal hfinite
  refine ⟨hfinite, by decide +kernel, by decide +kernel, fun u hu c hc => ?_⟩
  obtain ⟨-, -, hearly, hforward⟩ := hstored u hu c hc
  exact ⟨hearly, hforward⟩

end Session
end Cutroom
