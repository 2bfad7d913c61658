import Cutroom.Proofs.Desk.Processing
import Cutroom.Proofs.Storage.Resolved

/-! News about requests does no harm (`Editor.news_spares`). What is told to a session about failures and about a polled
    job leaves the project alone (`Session.Spared`), except that clips without a length may take one; and a request that
    fails only raises its alert, while the poll runs on (`Editor.Unharmed`). -/

namespace Cutroom

/-- The action tells the session of a failure, or of what a poll has learned. --/
def Action.isNews : Action → Bool
  | .uploadFailed _ | .promptFailed _ | .editFailed _ _ | .editTimedOut _ | .editCancelled | .renderUnavailable _ _ _
  | .exportFailed _ | .event _ => true
  | _ => false

/-- All of a clip but its end. --/
def Clip.outline (c : Clip) : Identifier × String × Seconds × Option MediaRef := (c.id, c.name, c.start, c.source)

theorem Lane.stretch_outline (lane : Lane) (duration : Seconds) :
    (lane.stretch duration).map Clip.outline = lane.map Clip.outline := by
  unfold stretch
  split
  · rw [List.map_map]
    refine List.map_congr_left fun c _ => ?_
    simp only [Function.comp_apply]
    split <;> rfl
  · rfl

namespace Session

/-- What is left alone of a session: all that the user edits and has set, the ends of clips apart. --/
structure Spared (s t : Session) : Prop where
  hasVideo : t.hasVideo = s.hasVideo
  clips : t.clips.map Clip.outline = s.clips.map Clip.outline
  audio : t.audio = s.audio
  selected : t.selected = s.selected
  size : t.history.size = s.history.size
  index : t.history.index = s.history.index
  zoom : t.zoom = s.zoom
  panels : t.panels = s.panels

/-- The lanes and all states of the history are as they were. --/
structure Unmoved (s t : Session) : Prop where
  clips : t.clips = s.clips
  history : t.history = s.history

/-- The clips without a length have taken one, in the lane that is shown and perhaps in the history. --/
structure Lengthened (s t : Session) (duration : Seconds) : Prop where
  clips : t.clips = s.clips.stretch duration
  history : t.history = s.history ∨ t.history = s.history.amend fun u => u.stretch duration

theorem Spared.refl (s : Session) : Spared s s := ⟨rfl, rfl, rfl, rfl, rfl, rfl, rfl, rfl⟩

theorem Unmoved.refl (s : Session) : Unmoved s s := ⟨rfl, rfl⟩

theorem Spared.trans {s t u : Session} (h₁ : Spared s t) (h₂ : Spared t u) : Spared s u where
  hasVideo := h₂.hasVideo.trans h₁.hasVideo
  clips := h₂.clips.trans h₁.clips
  audio := h₂.audio.trans h₁.audio
  selected := h₂.selected.trans h₁.selected
  size := h₂.size.trans h₁.size
  index := h₂.index.trans h₁.index
  zoom := h₂.zoom.trans h₁.zoom
  panels := h₂.panels.trans h₁.panels

theorem Spared.ifCurrent {s next : Session} (job : JobId) (h : Spared s next) : Spared s (s.ifCurrent job next) := by
  unfold Session.ifCurrent
  split
  · exact h
  · exact .refl s

theorem Unmoved.ifCurrent {s next : Session} (job : JobId) (h : Unmoved s next) : Unmoved s (s.ifCurrent job next) := by
  unfold Session.ifCurrent
  split
  · exact h
  · exact .refl s

/-! ### A length that becomes known -/

theorem setVideoLength_spared (s : Session) (duration : Seconds) : Spared s (s.setVideoLength duration) := by
  unfold setVideoLength
  split
  · constructor
    case clips => exact Lane.stretch_outline s.clips duration
    case size =>
      show (if s.clips.stretches duration then s.history.amend _ else s.history).size = s.history.size
      split
      · exact List.length_map _
      · rfl
    case index =>
      show (if s.clips.stretches duration then s.history.amend _ else s.history).index = s.history.index
      split <;> rfl
    all_goals rfl
  · exact .refl s

theorem setVideoLength_moves (s : Session) (duration : Seconds) :
    Unmoved s (s.setVideoLength duration) ∨
      duration.isLength = true ∧ Lengthened s (s.setVideoLength duration) duration := by
  cases hd : duration.isLength with
  | false =>
    simp only [setVideoLength, hd, Bool.false_eq_true, if_false]
    exact .inl (.refl s)
  | true =>
    simp only [setVideoLength, hd, if_true]
    refine .inr ⟨trivial, rfl, ?_⟩
    show (if s.clips.stretches duration then s.history.amend _ else s.history) = s.history ∨ _
    split
    · exact .inr rfl
    · exact .inl rfl

theorem observe_spared (s : Session) (job : JobId) (report : StatusReport) : Spared s (s.observe job report) := by
  refine Spared.ifCurrent job ?_
  have hseen : Spared s { s with job := s.job.map fun j => j.observe report } :=
    ⟨rfl, rfl, rfl, rfl, rfl, rfl, rfl, rfl⟩
  cases report.duration with
  | none => exact hseen
  | some duration => exact hseen.trans (setVideoLength_spared _ duration)

theorem observe_moves (s : Session) (job : JobId) (report : StatusReport) :
    Unmoved s (s.observe job report) ∨
      ∃ duration, s.isCurrent job = true ∧ report.duration = some duration ∧ duration.isLength = true ∧
        Lengthened s (s.observe job report) duration := by
  cases hc : s.isCurrent job with
  | false =>
    rw [observe, ifCurrent_of_stale hc]
    exact .inl (.refl s)
  | true =>
    rw [observe, ifCurrent_of_current hc]
    cases report.duration with
    | none => exact .inl ⟨rfl, rfl⟩
    | some duration =>
      rcases setVideoLength_moves { s with job := s.job.map fun j => j.observe report } duration with h | ⟨hd, h⟩
      · exact .inl ⟨h.clips, h.history⟩
      · exact .inr ⟨duration, rfl, rfl, hd, h.clips, h.history⟩

/-! ### News -/

theorem alert_spared (s : Session) (kind : AlertKind) (text : String) : Spared s (s.alert kind text) :=
  ⟨rfl, rfl, rfl, rfl, rfl, rfl, rfl, rfl⟩

theorem finish_spared {s t : Session} (h : Spared s t) (reply : String) : Spared s (t.finish reply) :=
  h.trans ⟨rfl, rfl, rfl, rfl, rfl, rfl, rfl, rfl⟩

theorem editCancelled_spared (s : Session) : Spared s (s.tried s.editCancelled?).2 := by
  unfold editCancelled?
  split
  · exact finish_spared (.refl s) _
  · exact .refl s

theorem editCancelled_unmoved (s : Session) : Unmoved s (s.tried s.editCancelled?).2 := by
  unfold editCancelled?
  split
  · exact ⟨rfl, rfl⟩
  · exact .refl s

theorem apply_spared (s : Session) (event : JobEvent) : Spared s (s.apply event).2 := by
  cases event with
  | status job report => exact observe_spared s job report
  | completed | pollError => exact .refl s
  | chatOnly | failed | timedOut => exact .ifCurrent _ (finish_spared (.refl s) _)
  | refreshFailed => exact .ifCurrent _ (finish_spared (alert_spared s _ _) _)

theorem news_spared (s : Session) {a : Action} (h : a.isNews = true) : Spared s (s.act a).2 := by
  cases a <;> try cases h
  case uploadFailed | exportFailed => exact alert_spared s _ _
  case promptFailed => exact ⟨rfl, rfl, rfl, rfl, rfl, rfl, rfl, rfl⟩
  case editFailed | editTimedOut => exact .ifCurrent _ (finish_spared (.refl s) _)
  case renderUnavailable => exact .ifCurrent _ (finish_spared (alert_spared s _ _) _)
  case editCancelled => exact editCancelled_spared s
  case event event => exact apply_spared s event

/-- Only a report about the present job moves anything in the lanes or in the history. --/
theorem news_moves (s : Session) {a : Action} (h : a.isNews = true) :
    Unmoved s (s.act a).2 ∨
      ∃ job report duration, a = .event (.status job report) ∧ s.isCurrent job = true ∧
        report.duration = some duration ∧ duration.isLength = true ∧ Lengthened s (s.act a).2 duration := by
  cases a <;> try cases h
  case uploadFailed | promptFailed | exportFailed => exact .inl ⟨rfl, rfl⟩
  case editFailed | editTimedOut | renderUnavailable => exact .inl (.ifCurrent _ ⟨rfl, rfl⟩)
  case editCancelled => exact .inl (editCancelled_unmoved s)
  case event event =>
    cases event with
    | status job report =>
      refine (observe_moves s job report).imp_right fun hmoved => ?_
      obtain ⟨duration, hc, hduration, hd, hlong⟩ := hmoved
      exact ⟨job, report, duration, rfl, hc, hduration, hd, hlong⟩
    | completed | pollError => exact .inl (.refl s)
    | chatOnly | failed | refreshFailed | timedOut => exact .inl (.ifCurrent _ ⟨rfl, rfl⟩)

theorem apply_of_stale {s : Session} {event : JobEvent} (h : s.isCurrent event.job = false) :
    s.apply event = (none, s) := by
  cases event with
  | completed job reply video =>
    have hs : s.isCurrent job = false := h
    simp only [apply, hs, Bool.false_eq_true, if_false]
  | status | chatOnly | failed | refreshFailed | timedOut => exact congrArg (Prod.mk none) (ifCurrent_of_stale h _)
  | pollError => rfl

end Session

/-! ### Requests that fail -/

namespace Watch

variable {σ : Type} [JobService σ]

/-- The service was asked for something that is no matter of the poll, which at most took the turns that were due
    already. --/
inductive RunsOn (w : Watch σ) : Watch σ → Prop where
  | asked (after : σ) : RunsOn w { w with service := after }
  | settled (before after : σ) : RunsOn w { Watch.sleep { w with service := before } 0 with service := after }

theorem turns_unread (fuel : Nat) (moment : Wait) (w : Watch σ) :
    ∃ sent, (w.turns fuel moment).unread = w.unread ++ sent := by
  induction fuel generalizing w with
  | zero => exact ⟨[], (List.append_nil _).symm⟩
  | succ fuel ih =>
    cases hp : w.poll with
    | none =>
      rw [turns_of_idle hp]
      exact ⟨[], (List.append_nil _).symm⟩
    | some p =>
      rw [turns_of_running hp]
      split
      · obtain ⟨sent, hsent⟩ := ih (w.turned p)
        exact ⟨(p.turn w.listening w.service).events ++ sent, by rw [hsent, turned, List.append_assoc]⟩
      · exact ⟨[], (List.append_nil _).symm⟩

theorem turns_of_early {w : Watch σ} {p : Poll} {moment : Wait} (hp : w.poll = some p) (h : moment < p.due)
    (fuel : Nat) : w.turns fuel moment = w := by
  cases fuel with
  | zero => rfl
  | succ fuel => rw [turns_of_running hp, if_neg (Nat.not_le.mpr h)]

theorem RunsOn.queue {w v : Watch σ} (h : RunsOn w v) : ∃ sent, v.unread = w.unread ++ sent := by
  cases h with
  | asked after => exact ⟨[], (List.append_nil _).symm⟩
  | settled before after => exact turns_unread _ _ { w with service := before }

theorem RunsOn.poll {w v : Watch σ} {p : Poll} (h : RunsOn w v) (hp : w.poll = some p) (hdue : w.now < p.due) :
    v.poll = some p := by
  cases h with
  | asked after => exact hp
  | settled before after =>
    have hstay := turns_of_early (w := { w with service := before }) hp hdue
      (Watch.turnsLeft { w with service := before })
    exact (congrArg Watch.poll hstay).trans hp

end Watch

namespace Editor

variable {σ : Type} [JobService σ]

/-- The editor has raised these alerts and is otherwise as it was: its poll runs on, and no event is lost. --/
structure Unharmed (e e' : Editor σ) (raised : List Alert) : Prop where
  session : e'.session = { e.session with alerts := e.session.alerts ++ raised }
  watch : e.watch.RunsOn e'.watch
  queue : ∃ sent, e'.watch.unread = e.watch.unread ++ sent
  poll : ∀ p, e.watch.poll = some p → e.watch.now < p.due → e'.watch.poll = some p
  rendersDir : e'.rendersDir = e.rendersDir
  responder : e'.responder = e.responder
  stamp : e'.stamp = e.stamp

theorem Unharmed.of_runsOn {e e' : Editor σ} {raised : List Alert} (hw : e.watch.RunsOn e'.watch)
    (hs : e'.session = { e.session with alerts := e.session.alerts ++ raised }) (hd : e'.rendersDir = e.rendersDir)
    (hr : e'.responder = e.responder) (ht : e'.stamp = e.stamp) : Unharmed e e' raised :=
  ⟨hs, hw, hw.queue, fun _ hp hdue => hw.poll hp hdue, hd, hr, ht⟩

theorem upload_unharmed {e : Editor σ} {file : UploadFile} {err : SessionError} (h : (e.upload file).1 = .error err) :
    (∃ message, Unharmed e (e.upload file).2 [⟨.upload, message⟩]) ∧ (e.upload file).2.disk = e.disk := by
  unfold upload at h ⊢
  rcases hs : JobService.upload e.watch.service file with ⟨err' | receipt, after⟩ <;> rw [hs] at h
  · exact ⟨⟨err'.message, .of_runsOn (.asked after) rfl rfl rfl rfl⟩, rfl⟩
  · cases h

theorem uploadPath_unharmed {e : Editor σ} {path : FilePath} {err : SessionError}
    (h : (e.uploadPath path).1 = .error err) :
    (∃ message, Unharmed e (e.uploadPath path).2 [⟨.upload, message⟩]) ∧ (e.uploadPath path).2.disk = e.disk := by
  unfold uploadPath at h ⊢
  cases hread : e.settle.disk.read path with
  | ok bytes =>
    simp only [hread, upload] at h ⊢
    rcases hs : JobService.upload e.settle.watch.service (UploadFile.ofBytes (sentName path) bytes) with
      ⟨err' | receipt, after⟩ <;> rw [hs] at h
    · exact ⟨⟨err'.message, .of_runsOn (.settled e.watch.service after) rfl rfl rfl rfl⟩, rfl⟩
    · cases h
  | error err' =>
    simp only [hread]
    exact ⟨⟨_, .of_runsOn (.settled e.watch.service e.settle.watch.service) rfl rfl rfl rfl⟩, rfl⟩

theorem writeFile_error_files {disk disk' : Disk} {path : FilePath} {bytes : ByteArray} {err : DiskError}
    (h : writeFile disk path bytes = (.error err, disk')) : disk.SameFilesBut (path.resolve disk.home) disk' := by
  have hparent := disk.ensureParent_furnished path
  have hhome := (hparent.grown fun _ => False).home
  unfold writeFile at h
  rcases ht : disk.ensureParent path with ⟨_ | _, made⟩ <;> rw [ht] at h hparent hhome
  · cases h
    exact hparent.files.but _
  · intro other written hother
    have hsame : disk'.node? other = made.node? other :=
      Disk.write_failed h (hother.imp hparent.calm fun hne => by rwa [hhome])
    rw [hsame]
    exact hparent.files other written

theorem exportVideo_unharmed {e : Editor σ} {options : ExportOptions} {target : Option FilePath} {err : SessionError}
    (h : (e.exportVideo options target).1 = .error err) :
    (err = .noJob ∧ (e.exportVideo options target).2 = e) ∨
      (err ≠ .noJob ∧ (∃ message, Unharmed e (e.exportVideo options target).2 [⟨.export, message⟩]) ∧
        ∃ job, e.session.job = some job ∧
          e.disk.SameFilesBut ((target.getD (e.exportPath job.id options)).resolve e.disk.home)
            (e.exportVideo options target).2.disk) := by
  unfold exportVideo at h ⊢
  cases hjob : e.session.job with
  | none =>
    rw [hjob] at h
    cases h
    exact .inl ⟨rfl, rfl⟩
  | some job =>
    refine .inr ?_
    rw [hjob] at h
    dsimp only at h ⊢
    rcases hs : JobService.download e.watch.service job.id (some options) with ⟨err' | bytes, after⟩ <;>
      rw [hs] at h <;> dsimp only at h ⊢
    · cases h
      exact ⟨nofun, ⟨err'.message, .of_runsOn (.asked after) rfl rfl rfl rfl⟩, job, rfl, (Disk.SameFiles.refl _).but _⟩
    · rcases hwrite : writeFile (e.withService after).settle.disk
          (target.getD ((e.withService after).settle.exportPath job.id options)) bytes with ⟨err' | _, disk⟩ <;>
        rw [hwrite] at h
      · cases h
        exact ⟨nofun, ⟨_, .of_runsOn (.settled after (e.withService after).settle.watch.service) rfl rfl rfl rfl⟩,
          job, rfl, writeFile_error_files hwrite⟩
      · cases h

/-- News spares the session, and only a report about the present job moves something: it gives clips without a length
    theirs. What a poll has learned about another job, and that a request of it failed, is no matter for the session.
    A request of the editor that fails raises one alert, or none where there is no job to export, and leaves the poll
    and its events alone; the files stay, unless trouble with the disk leaves an export begun. --/
theorem news_spares :
    (∀ (s : Session) (a : Action), a.isNews = true → Session.Spared s (s.act a).2 ∧
      (Session.Unmoved s (s.act a).2 ∨
        ∃ job report duration, a = .event (.status job report) ∧ s.isCurrent job = true ∧
          report.duration = some duration ∧ duration.isLength = true ∧ Session.Lengthened s (s.act a).2 duration)) ∧
    (∀ (s : Session) (event : JobEvent), s.isCurrent event.job = false → s.apply event = (none, s)) ∧
    (∀ (s : Session) (job : JobId) (message : String), s.apply (.pollError job message) = (none, s)) ∧
    (∀ (e : Editor σ) (file : UploadFile) (err : SessionError), (e.upload file).1 = .error err →
      (∃ message, Unharmed e (e.upload file).2 [⟨.upload, message⟩]) ∧ (e.upload file).2.disk = e.disk) ∧
    (∀ (e : Editor σ) (path : FilePath) (err : SessionError), (e.uploadPath path).1 = .error err →
      (∃ message, Unharmed e (e.uploadPath path).2 [⟨.upload, message⟩]) ∧ (e.uploadPath path).2.disk = e.disk) ∧
    ∀ (e : Editor σ) (options : ExportOptions) (target : Option FilePath) (err : SessionError),
      (e.exportVideo options target).1 = .error err →
        (err = .noJob ∧ (e.exportVideo options target).2 = e) ∨
          (err ≠ .noJob ∧ (∃ message, Unharmed e (e.exportVideo options target).2 [⟨.export, message⟩]) ∧
            ∃ job, e.session.job = some job ∧
              e.disk.SameFilesBut ((target.getD (e.exportPath job.id options)).resolve e.disk.home)
                (e.exportVideo options target).2.disk) where
  left s _ h := ⟨Session.news_spared s h, Session.news_moves s h⟩
  right := ⟨fun _ _ => Session.apply_of_stale, fun _ _ _ => rfl, fun _ _ _ => upload_unharmed,
    fun _ _ _ => uploadPath_unharmed, fun _ _ _ _ => exportVideo_unharmed⟩

/-- An editor whose service has become unable to take or to hand out videos. --/
def cutOff (e : Editor (Recorded Script)) : Editor (Recorded Script) :=
  e.withService ⟨{ e.watch.service.service with
    uploadError := some "offline"
    downloadError := some "offline" }, e.watch.service.requests⟩

/-- A rehearsed edit hears of the length of its video, and of another job; and it goes on while the service is cut
    off. --/
theorem news_spares_of_rehearsal :
    Session.Spared rehearsedEdit.session
        (rehearsedEdit.session.act
          (.event (.status Script.job { StatusReport.ofStatus .processing with duration := some 30.0 }))).2 ∧
      rehearsedEdit.session.apply (.chatOnly ⟨"job-2"⟩ none) = (none, rehearsedEdit.session) ∧
      (∃ message, Unharmed (cutOff rehearsedEdit) ((cutOff rehearsedEdit).upload scriptedVideo).2
        [⟨.upload, message⟩]) ∧
      (∃ message, Unharmed rehearsedEdit (rehearsedEdit.uploadPath ⟨""⟩).2 [⟨.upload, message⟩]) ∧
      (∃ message, Unharmed (cutOff rehearsedEdit) ((cutOff rehearsedEdit).exportVideo .standard none).2
        [⟨.export, message⟩]) := by
  obtain ⟨hnews, hstale, -, hupload, hpath, hexport⟩ := news_spares (σ := Recorded Script)
  refine ⟨(hnews _ _ rfl).1, hstale _ _ rfl, (hupload _ _ _ rfl).1, (hpath _ _ _ rfl).1, ?_⟩
  rcases hexport (cutOff rehearsedEdit) .standard none _ rfl with ⟨hno, -⟩ | ⟨-, hraised, -⟩
  · cases hno
  · exact hraised

end Editor
end Cutroom
