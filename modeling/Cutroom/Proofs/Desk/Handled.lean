import Cutroom.Desk.Editor
import Cutroom.Proofs.Job.Outlook
import Cutroom.Proofs.Storage.Written

/-! How an editor takes in the events of a poll. A reading leaves all alone that the user was told
    (`Session.Undisturbed`), the final event of the present job closes the edit (`Session.Closed`), and an
    event about another job changes nothing. -/

namespace Cutroom
namespace Session

/-! ### Readings -/

/-- What a reading leaves alone. --/
structure Undisturbed (s t : Session) : Prop where
  processing : t.processing = s.processing
  chat : t.chat = s.chat
  alerts : t.alerts = s.alerts
  source : t.source = s.source
  job : t.job.map Job.id = s.job.map Job.id

theorem Undisturbed.refl (s : Session) : Undisturbed s s := ⟨rfl, rfl, rfl, rfl, rfl⟩

theorem Undisturbed.trans {s t u : Session} (h₁ : Undisturbed s t) (h₂ : Undisturbed t u) : Undisturbed s u where
  processing := h₂.processing.trans h₁.processing
  chat := h₂.chat.trans h₁.chat
  alerts := h₂.alerts.trans h₁.alerts
  source := h₂.source.trans h₁.source
  job := h₂.job.trans h₁.job

theorem isCurrent_eq (s : Session) (job : JobId) : s.isCurrent job = (s.job.map Job.id).any (· == job) := by
  unfold isCurrent
  cases s.job <;> rfl

theorem isCurrent_congr {s t : Session} (h : t.job.map Job.id = s.job.map Job.id) (job : JobId) :
    t.isCurrent job = s.isCurrent job := by
  rw [isCurrent_eq, isCurrent_eq, h]

theorem isCurrent_iff {s : Session} {job : JobId} : s.isCurrent job = true ↔ s.job.map Job.id = some job := by
  unfold isCurrent
  cases s.job <;> simp

theorem ifCurrent_of_current {s : Session} {job : JobId} (h : s.isCurrent job = true) (next : Session) :
    s.ifCurrent job next = next := by
  simp only [ifCurrent, h, if_true]

theorem ifCurrent_of_stale {s : Session} {job : JobId} (h : s.isCurrent job = false) (next : Session) :
    s.ifCurrent job next = s := by
  simp only [ifCurrent, h, Bool.false_eq_true, if_false]

theorem setVideoLength_undisturbed (s : Session) (duration : Seconds) : Undisturbed s (s.setVideoLength duration) := by
  unfold setVideoLength
  split <;> exact ⟨rfl, rfl, rfl, rfl, rfl⟩

theorem observe_undisturbed (s : Session) (job : JobId) (report : StatusReport) :
    Undisturbed s (s.observe job report) := by
  have seen : Undisturbed s { s with job := s.job.map fun j => j.observe report } :=
    ⟨rfl, rfl, rfl, rfl, by cases s.job <;> rfl⟩
  unfold observe ifCurrent
  split
  · cases report.duration with
    | none => exact seen
    | some duration => exact seen.trans (setVideoLength_undisturbed _ duration)
  · exact .refl s

theorem apply_reading (s : Session) {event : JobEvent} (h : event.isFinal = false) :
    (s.apply event).1 = none ∧ Undisturbed s (s.apply event).2 := by
  cases event with
  | status job report => exact ⟨rfl, observe_undisturbed s job report⟩
  | pollError job message => exact ⟨rfl, .refl s⟩
  | completed | chatOnly | failed | refreshFailed | timedOut => cases h

def learn (s : Session) (events : List JobEvent) : Session := events.foldl (fun s event => (s.apply event).2) s

theorem learn_undisturbed (s : Session) {events : List JobEvent} (h : ∀ event ∈ events, event.isFinal = false) :
    Undisturbed s (s.learn events) := by
  induction events generalizing s with
  | nil => exact .refl s
  | cons event rest ih =>
    have hfirst := (apply_reading s (h event List.mem_cons_self)).2
    exact hfirst.trans (ih _ fun later hl => h later (List.mem_cons_of_mem _ hl))

/-! ### The end of an edit -/

/-- The edit is over: the assistant has said how, and the job keeps what was said. --/
structure Closed (s t : Session) : Prop where
  processing : t.processing = false
  reply : ∃ reply, t.chat = s.chat.assistant reply ∧ t.job = s.job.map fun j => { j with reply := some reply }

theorem finish_closed (s : Session) (reply : String) : Closed s (s.finish reply) := ⟨rfl, reply, rfl, rfl⟩

theorem Closed.ifCurrent {s next : Session} {job : JobId} (hc : s.isCurrent job = true) (h : Closed s next) :
    Closed s (s.ifCurrent job next) := by
  rw [ifCurrent_of_current hc]
  exact h

theorem editCompleted_closed {s : Session} {job : JobId} (hc : s.isCurrent job = true) (reply : Option String)
    (source : VideoSource) : Closed s (s.editCompleted job reply source) :=
  Closed.ifCurrent hc ⟨rfl, _, rfl, rfl⟩

theorem renderUnavailable_closed {s : Session} {job : JobId} (hc : s.isCurrent job = true) (reply : Option String)
    (message : String) : Closed s (s.renderUnavailable job reply message) :=
  Closed.ifCurrent hc ⟨rfl, _, rfl, rfl⟩

theorem Closed.job {s t : Session} (h : Closed s t) : t.job.map Job.id = s.job.map Job.id := by
  obtain ⟨-, reply, -, hj⟩ := h
  rw [hj]
  cases s.job <;> rfl

end Session

namespace Editor

variable {σ : Type}

/-! ### Handling -/

theorem finishRender_watch (e : Editor σ) (render : PendingRender) : (e.finishRender render).watch = e.watch := by
  unfold finishRender
  split <;> rfl

variable [JobService σ]

theorem handle_reading (e : Editor σ) {event : JobEvent} (h : event.isFinal = false) :
    e.handle event = { e with session := (e.session.apply event).2 } := by
  have hnone := (e.session.apply_reading h).1
  unfold handle
  rcases ha : e.session.apply event with ⟨render, session⟩
  rw [ha] at hnone
  cases hnone
  rfl

/-- Nothing happens to an editor with an event about a job that it has left. --/
theorem handle_of_stale (e : Editor σ) {event : JobEvent} (h : e.session.isCurrent event.job = false) :
    e.handle event = e := by
  cases event with
  | completed job reply video =>
    have hs : e.session.isCurrent job = false := h
    simp only [handle, Session.apply, hs, Bool.false_eq_true, if_false]
  | status job report | chatOnly job reply | failed job reason | refreshFailed job reply message
  | timedOut job attempts =>
    exact congrArg (fun session => { e with session := session }) (Session.ifCurrent_of_stale h _)
  | pollError job message => rfl

theorem handle_completed (e : Editor σ) {job : JobId} {reply : Option String} {video : ByteArray}
    (h : e.session.isCurrent job = true) :
    e.handle (.completed job reply video) = e.settle.finishRender ⟨job, reply, video⟩ := by
  simp only [handle, Session.apply, h, if_true]

theorem handle_closed (e : Editor σ) {event : JobEvent} (hf : event.isFinal = true)
    (hc : e.session.isCurrent event.job = true) : Session.Closed e.session (e.handle event).session := by
  cases event with
  | status job report => cases hf
  | pollError job message => cases hf
  | completed job reply video =>
    have hj : e.session.isCurrent job = true := hc
    rw [handle_completed e hj]
    unfold finishRender
    split
    · exact Session.editCompleted_closed hj _ _
    · exact Session.renderUnavailable_closed hj _ _
  | chatOnly job reply => exact (Session.finish_closed _ _).ifCurrent hc
  | failed job reason => exact (Session.finish_closed _ _).ifCurrent hc
  | refreshFailed job reply message => exact Session.renderUnavailable_closed hc _ _
  | timedOut job attempts => exact (Session.finish_closed _ _).ifCurrent hc

/-! ### Videos -/

/-- The notice that a new video could not be had. --/
def unavailable (message : String) : Alert := ⟨.export, "Could not load the edited video: " ++ message⟩

omit [JobService σ] in
/-- A video that was stored is read back from where it was stored. --/
theorem store_read {e : Editor σ} {render : PendingRender} {path : FilePath} {disk : Disk}
    (h : e.store render = (.ok path, disk)) : disk.read path = .ok render.video := by
  unfold store at h
  rcases ht : e.disk.ensureTree e.rendersDir with ⟨_ | _, tree⟩
  · simp only [ht, Prod.mk.injEq, reduceCtorEq, false_and] at h
  · simp only [ht] at h
    rcases hw : tree.write (e.renderPath render.job) render.video with ⟨err | _, written⟩
    · simp only [hw, Prod.mk.injEq, reduceCtorEq, false_and] at h
    · simp only [hw, Prod.mk.injEq, Except.ok.injEq] at h
      obtain ⟨rfl, rfl⟩ := h
      exact Disk.read_write hw

theorem handle_no_video (e : Editor σ) {event : JobEvent} (h : event.video? = none) :
    (e.handle event).session.source = e.session.source ∧ (e.handle event).session.alerts = e.session.alerts := by
  have key : ∀ {job : JobId} {next : Session}, next.source = e.session.source → next.alerts = e.session.alerts →
      (e.session.ifCurrent job next).source = e.session.source ∧
        (e.session.ifCurrent job next).alerts = e.session.alerts := by
    intro job next hs ha
    unfold Session.ifCurrent
    split
    · exact ⟨hs, ha⟩
    · exact ⟨rfl, rfl⟩
  cases event with
  | status job report =>
    have ho := e.session.observe_undisturbed job report
    exact ⟨ho.source, ho.alerts⟩
  | pollError job message => exact ⟨rfl, rfl⟩
  | completed job reply video => cases h
  | chatOnly job reply => exact key rfl rfl
  | failed job reason => exact key rfl rfl
  | refreshFailed job reply message => cases h
  | timedOut job attempts => exact key rfl rfl

/-- A video that could not be fetched leaves the preview alone and raises an alert. --/
theorem handle_unfetched (e : Editor σ) {event : JobEvent} {message : String}
    (h : event.video? = some (.error message)) (hc : e.session.isCurrent event.job = true) :
    (e.handle event).session.source = e.session.source ∧
      (e.handle event).session.alerts = e.session.alerts ++ [unavailable message] := by
  cases event with
  | refreshFailed job reply message' =>
    cases h
    have hnext : (e.handle (.refreshFailed job reply message)).session =
        ((e.session.alert .export ("Could not load the edited video: " ++ message)).finish
          (reply.getD Session.editReadyReply)) := Session.ifCurrent_of_current hc _
    rw [hnext]
    exact ⟨rfl, rfl⟩
  | status | completed | chatOnly | failed | pollError | timedOut => cases h

/-- A video that was fetched is stored, and then the preview plays it. --/
theorem handle_stored {e : Editor σ} {event : JobEvent} {video : ByteArray} {path : FilePath} {disk : Disk}
    (h : event.video? = some (.ok video)) (hc : e.session.isCurrent event.job = true)
    (hs : e.settle.store ⟨event.job, none, video⟩ = (.ok path, disk)) :
    (e.handle event).disk = disk ∧ (e.handle event).session.source = some (.file path) ∧
      (e.handle event).session.alerts = e.session.alerts := by
  cases event with
  | completed job reply video' =>
    cases h
    have hj : e.settle.session.isCurrent job = true := hc
    -- Where a video is stored does not depend on the reply.
    have hs' : e.settle.store ⟨job, reply, video⟩ = (.ok path, disk) := hs
    rw [handle_completed e hj, finishRender, hs']
    simp only [Session.editCompleted, Session.ifCurrent_of_current hj]
    exact ⟨trivial, rfl, rfl⟩
  | status | refreshFailed | chatOnly | failed | pollError | timedOut => cases h

/-- A video that was fetched but cannot be stored leaves the preview alone and raises an alert. --/
theorem handle_unstored {e : Editor σ} {event : JobEvent} {video : ByteArray} {err : DiskError} {disk : Disk}
    (h : event.video? = some (.ok video)) (hc : e.session.isCurrent event.job = true)
    (hs : e.settle.store ⟨event.job, none, video⟩ = (.error err, disk)) :
    (e.handle event).session.source = e.session.source ∧
      (e.handle event).session.alerts = e.session.alerts ++ [unavailable err.message] := by
  cases event with
  | completed job reply video' =>
    cases h
    have hj : e.settle.session.isCurrent job = true := hc
    have hs' : e.settle.store ⟨job, reply, video⟩ = (.error err, disk) := hs
    rw [handle_completed e hj, finishRender, hs']
    simp only [Session.renderUnavailable, Session.ifCurrent_of_current hj]
    exact ⟨rfl, rfl⟩
  | status | refreshFailed | chatOnly | failed | pollError | timedOut => cases h

/-! ### The rest of the editor -/

theorem settle_of_idle {e : Editor σ} (h : e.watch.poll = none) : e.settle = e := by
  simp only [settle, sleep, Watch.sleep_zero_of_idle h]

theorem handle_watch_of_idle {e : Editor σ} (h : e.watch.poll = none) (event : JobEvent) :
    (e.handle event).watch = e.watch := by
  unfold handle
  rcases e.session.apply event with ⟨_ | render, session⟩
  · rfl
  · show (finishRender (settle { e with session := session }) render).watch = e.watch
    rw [finishRender_watch]
    exact Watch.sleep_zero_of_idle h

theorem handle_names (e : Editor σ) (event : JobEvent) :
    (e.handle event).rendersDir = e.rendersDir ∧ (e.handle event).stamp = e.stamp := by
  unfold handle
  rcases e.session.apply event with ⟨_ | render, session⟩
  · exact ⟨rfl, rfl⟩
  · show (finishRender _ render).rendersDir = _ ∧ (finishRender _ render).stamp = _
    unfold finishRender
    split <;> exact ⟨rfl, rfl⟩

theorem handle_gives (e : Editor σ) (event : JobEvent) (h : e.watch.listening = true) :
    e.watch.Gives [] (e.handle event).watch := by
  unfold handle
  rcases e.session.apply event with ⟨_ | render, session⟩
  · exact .refl h
  · show e.watch.Gives [] (finishRender _ render).watch
    rw [finishRender_watch]
    exact Watch.advance_gives e.watch _ h

end Editor
end Cutroom
