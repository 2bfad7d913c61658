import Cutroom.Job.Script
import Cutroom.Proofs.Desk.Waiting
import Cutroom.Proofs.Job.Recorded

/-! The operations of an editor, one after the other, and what one of them can do (`Editor.step_outcome`): it
    keeps what is awaited (`Editor.Kept`), it stops waiting (`Editor.Cancelled`), or it moves on to another poll
    or to none (`Editor.Replaced`). -/

namespace Cutroom
namespace Editor

variable {σ : Type}

/-- What an editor can be asked to do. Time passes and the disk changes in between. --/
inductive Op where
  | upload (file : UploadFile)
  | uploadPath (path : FilePath)
  | openJob (job : JobId)
  | sendPrompt (text : String)
  | ask (text : String)
  | next
  | wait
  | cancelPoll
  | exportVideo (options : ExportOptions) (target : Option FilePath)
  | history
  | sleep (wait : Wait)
  | disk (disk : Disk)

section Step
variable [JobService σ]

/-- The editor after an operation. --/
def step (e : Editor σ) : Op → Editor σ
  | .upload file => (e.upload file).2
  | .uploadPath path => (e.uploadPath path).2
  | .openJob job => (e.openJob job).2
  | .sendPrompt text => (e.sendPrompt text).2
  | .ask text => (e.ask text).2
  | .next => e.next.2
  | .wait => e.wait.2
  | .cancelPoll => e.cancelPoll.2
  | .exportVideo options target => (e.exportVideo options target).2
  | .history => e.history.2
  | .sleep wait => e.sleep wait
  | .disk disk => { e with disk := disk }

/-- The events that an operation answers with. --/
def heard (e : Editor σ) : Op → List JobEvent
  | .next => e.next.1.toList
  | .wait => e.wait.1
  | _ => []

/-- The operation moves on from the poll that runs, if one does: a video is uploaded, a job is opened or a prompt
    is taken. --/
def replaces (e : Editor σ) : Op → Bool
  | .upload file => (e.upload file).1.toBool
  | .uploadPath path => (e.uploadPath path).1.toBool
  | .openJob job => (e.openJob job).1.toBool
  | .sendPrompt text => (e.sendPrompt text).1.toBool
  | _ => false

/-- The editors that operations can lead to, whatever the service answers. --/
inductive Reachable : Editor σ → Prop where
  | opened (service : σ) (policy : PollPolicy) (disk : Disk) (rendersDir : FilePath) (responder : Responder)
      (stamp : Wait → String) : Reachable { opened service policy disk rendersDir stamp with responder := responder }
  | step {e : Editor σ} (op : Op) : Reachable e → Reachable (e.step op)

end Step

/-! ### Rehearsals -/

/-- An editor on which the scripted service answers the status requests. --/
def scripted (answers : List (Except String StatusReport)) : Editor (Recorded Script) :=
  opened ⟨{ Script.empty with answers := answers, duration := none }, []⟩ .standard .empty ⟨"/renders"⟩ fun _ => "now"

def scriptedVideo : UploadFile := ⟨"a.mp4", .empty, "video/mp4"⟩

/-- An editor with a video to rehearse on. --/
def rehearsal (answers : List (Except String StatusReport)) : Editor (Recorded Script) :=
  (scripted answers).step (.upload scriptedVideo)

theorem rehearsal_reachable (answers : List (Except String StatusReport)) : Reachable (rehearsal answers) :=
  .step _ (.opened _ _ _ _ .standard _)

/-! ### What an operation can do -/

/-- The editor hands out events and keeps what is awaited. An edit that was in progress stays so at most until its
    end is handed out. --/
structure Kept (e : Editor σ) (events : List JobEvent) (e' : Editor σ) : Prop where
  watch : e.watch.Keeps events e'.watch
  job : e'.session.job.map Job.id = e.session.job.map Job.id
  processing : e'.session.processing = true → e.session.processing = true ∧
    ∀ event ∈ events, event.isFinal = true → e.session.isCurrent event.job = false

/-- The editor waits for nothing any more. --/
structure Cancelled (e' : Editor σ) : Prop where
  listening : e'.watch.listening = true
  unread : e'.watch.unread = []
  processing : e'.session.processing = false

/-- The editor has moved on: what its poll has sent is unread still, and if an edit is in progress, the new poll is
    about its job. --/
structure Replaced (e e' : Editor σ) : Prop where
  listening : e'.watch.listening = true
  queue : ∃ sent, e.watch.unread ++ sent = e'.watch.unread
  processing : e'.session.processing = true → ∃ p, e'.watch.poll = some p ∧ e'.session.isCurrent p.job = true

theorem Kept.refl {e : Editor σ} (h : e.watch.listening = true) : Kept e [] e where
  watch := .refl h
  job := rfl
  processing hp := ⟨hp, by simp⟩

theorem Kept.trans {e₁ e₂ e₃ : Editor σ} {before after : List JobEvent} (h₁ : Kept e₁ before e₂)
    (h₂ : Kept e₂ after e₃) : Kept e₁ (before ++ after) e₃ where
  watch := h₁.watch.trans h₂.watch
  job := h₂.job.trans h₁.job
  processing hp := by
    obtain ⟨hp₂, hafter⟩ := h₂.processing hp
    obtain ⟨hp₁, hbefore⟩ := h₁.processing hp₂
    refine ⟨hp₁, fun event he hf => ?_⟩
    rcases List.mem_append.mp he with he | he
    · exact hbefore event he hf
    · rw [← Session.isCurrent_congr h₁.job]
      exact hafter event he hf

theorem Kept.of_session {e e' : Editor σ} (hw : e.watch.Keeps [] e'.watch)
    (hj : e'.session.job.map Job.id = e.session.job.map Job.id)
    (hp : e'.session.processing = true → e.session.processing = true) : Kept e [] e' :=
  ⟨hw, hj, fun h => ⟨hp h, by simp⟩⟩

variable [JobService σ]

/-! ### Events and time -/

theorem handle_kept (e : Editor σ) (event : JobEvent) :
    (e.handle event).session.job.map Job.id = e.session.job.map Job.id ∧
      ((e.handle event).session.processing = true →
        e.session.processing = true ∧ (event.isFinal = true → e.session.isCurrent event.job = false)) := by
  cases hc : e.session.isCurrent event.job with
  | false =>
    rw [handle_of_stale e hc]
    exact ⟨rfl, fun hp => ⟨hp, fun _ => rfl⟩⟩
  | true =>
    cases hf : event.isFinal with
    | false =>
      have hund := (e.session.apply_reading hf).2
      rw [handle_reading e hf]
      exact ⟨hund.job, fun hp => ⟨hund.processing.symm.trans hp, fun h => absurd h (by simp)⟩⟩
    | true =>
      have hclosed := handle_closed e hf hc
      refine ⟨hclosed.job, fun hp => ?_⟩
      rw [hclosed.processing] at hp
      cases hp

theorem next_kept {e : Editor σ} (hl : e.watch.listening = true) : e.Kept e.next.1.toList e.next.2 := by
  have hwatch := (next_gives hl).keeps
  cases ho : e.watch.outlook.1 with
  | nil =>
    rw [next_of_nil ho]
    exact .refl hl
  | cons event rest =>
    obtain ⟨v, -, hn⟩ := next_of_cons hl ho
    obtain ⟨hj, hp⟩ := handle_kept { e with watch := v } event
    rw [hn] at hwatch ⊢
    refine ⟨hwatch, hj, fun h => ⟨(hp h).1, fun other ho hf => ?_⟩⟩
    rw [List.mem_singleton.mp ho] at hf ⊢
    exact (hp h).2 hf

theorem Waits.kept {e e' : Editor σ} {events : List JobEvent} (h : Waits e events e')
    (hl : e.watch.listening = true) : e.Kept events e' := by
  induction h with
  | quiet hn =>
    have hk := next_kept hl
    rw [hn] at hk
    exact hk
  | final hn _ =>
    have hk := next_kept hl
    rw [hn] at hk
    exact hk
  | reading hn _ _ ih =>
    have hk := next_kept hl
    rw [hn] at hk
    exact hk.trans (ih hk.watch.listening)

theorem sleep_kept {e : Editor σ} (hl : e.watch.listening = true) (wait : Wait) : e.Kept [] (e.sleep wait) :=
  .of_session (Watch.advance_gives _ _ hl).keeps rfl id

theorem awaits_keeps {e : Editor σ} (hl : e.watch.listening = true) :
    ∀ pause, e.watch.Keeps [] (e.awaits pause).watch
  | none => .refl hl
  | some _ => (Watch.advance_gives _ _ hl).keeps

/-- While an answer is awaited, nothing is done to the session. --/
theorem awaits_session (e : Editor σ) : ∀ pause, (e.awaits pause).session = e.session
  | none => rfl
  | some _ => rfl

omit [JobService σ] in
theorem withService_kept {e : Editor σ} (hl : e.watch.listening = true) (service : σ) :
    e.Kept [] (e.withService service) := .of_session (Watch.service_keeps hl service) rfl id

/-! ### Requests -/

theorem ask_kept {e : Editor σ} (hl : e.watch.listening = true) (text : String) : e.Kept [] (e.ask text).2 := by
  unfold ask
  dsimp only
  split
  · exact .refl hl
  · have hkeeps (pause : Option Wait) : e.watch.Keeps [] ((e.asking (Text.trim text)).awaits pause).watch :=
      awaits_keeps (e := e.asking (Text.trim text)) hl pause
    split
    · refine .of_session (hkeeps _) ?_ fun hp => ?_
      · rw [awaits_session, asking]
      · rwa [awaits_session] at hp
    · exact .of_session (hkeeps _) rfl id

theorem exportVideo_kept {e : Editor σ} (hl : e.watch.listening = true) (options : ExportOptions)
    (target : Option FilePath) : e.Kept [] (e.exportVideo options target).2 := by
  unfold exportVideo
  split
  · exact .refl hl
  · split
    · exact .of_session (Watch.service_keeps hl _) rfl id
    · rename_i service _
      have hsettled := (withService_kept hl service).trans (sleep_kept (e := e.withService service) hl 0)
      dsimp only
      split
      · exact .of_session hsettled.watch rfl id
      · exact .of_session hsettled.watch rfl id

inductive Outcome (e : Editor σ) (events : List JobEvent) (e' : Editor σ) (replaces : Bool) : Prop where
  | kept : replaces = false → e.Kept events e' → Outcome e events e' replaces
  | cancelled : replaces = false → events = [] → Cancelled e' → Outcome e events e' replaces
  | replaced : replaces = true → events = [] → Replaced e e' → Outcome e events e' replaces

theorem upload_outcome {e : Editor σ} (hl : e.watch.listening = true) (file : UploadFile) :
    Outcome e [] (e.upload file).2 (e.upload file).1.toBool := by
  unfold upload
  split
  · exact .kept rfl (.of_session (Watch.service_keeps hl _) rfl id)
  · refine .replaced rfl rfl ⟨hl, ⟨[], List.append_nil _⟩, fun hp => ?_⟩
    cases hp

theorem openJob_outcome {e : Editor σ} (hl : e.watch.listening = true) (job : JobId) :
    Outcome e [] (e.openJob job).2 (e.openJob job).1.toBool := by
  unfold openJob
  split
  · exact .kept rfl (withService_kept hl _)
  · rename_i report service _
    refine .replaced rfl rfl ⟨hl, ⟨[], List.append_nil _⟩, fun hp => ?_⟩
    have hund := Session.observe_undisturbed (e.session.uploaded ⟨job, report.duration, report.status⟩
      (.remote (JobService.downloadUrl service job))) job report
    exact absurd (hund.processing.symm.trans hp) Bool.false_ne_true

omit [JobService σ] in
theorem Outcome.after {e₁ e₂ e₃ : Editor σ} {replaces : Bool} (hk : Kept e₁ [] e₂)
    (h : Outcome e₂ [] e₃ replaces) : Outcome e₁ [] e₃ replaces := by
  cases h with
  | kept hf hk' => exact .kept hf (hk.trans hk')
  | cancelled hf hnil hc => exact .cancelled hf hnil hc
  | replaced ht hnil hr =>
    refine .replaced ht hnil ⟨hr.listening, ?_, hr.processing⟩
    obtain ⟨sent₁, h₁⟩ := hk.watch.queue
    obtain ⟨sent₂, h₂⟩ := hr.queue
    exact ⟨sent₁ ++ sent₂, by rw [← List.append_assoc, h₁, List.nil_append, h₂]⟩

theorem uploadPath_outcome {e : Editor σ} (hl : e.watch.listening = true) (path : FilePath) :
    Outcome e [] (e.uploadPath path).2 (e.uploadPath path).1.toBool := by
  have hsettled : e.Kept [] e.settle := sleep_kept hl 0
  unfold uploadPath
  dsimp only
  split
  · exact (upload_outcome hsettled.watch.listening _).after hsettled
  · exact .kept rfl (.of_session hsettled.watch rfl id)

/-- A prompt is refused where an edit is in progress, and else begins one of the present job. --/
theorem beginPrompt_cases (s : Session) (text : String) :
    (∃ err t, s.beginPrompt text = (.error err, t) ∧ t.processing = s.processing ∧ t.job = s.job) ∨
      ∃ job t, s.beginPrompt text = (.ok job, t) ∧ s.processing = false ∧ t.isCurrent job = true ∧
        t.job.map Job.id = s.job.map Job.id := by
  unfold Session.beginPrompt
  dsimp only
  split
  · exact .inl ⟨_, s, rfl, rfl, rfl⟩
  · rename_i hp
    split
    · exact .inl ⟨_, s, rfl, rfl, rfl⟩
    · split
      · exact .inl ⟨_, _, rfl, rfl, rfl⟩
      · rename_i job hj
        exact .inr ⟨job.id, _, rfl, eq_false_of_ne_true hp, Session.isCurrent_iff.mpr rfl, by rw [hj]; rfl⟩

theorem sendPrompt_outcome {e : Editor σ} (hl : e.watch.listening = true) (text : String) :
    Outcome e [] (e.sendPrompt text).2 (e.sendPrompt text).1.toBool := by
  unfold sendPrompt
  rcases beginPrompt_cases e.session text with ⟨err, t, hb, hp, hj⟩ | ⟨job, t, hb, -, hc, hj⟩
  · rw [hb]
    exact .kept rfl (.of_session (.refl hl) (congrArg _ hj) hp.symm.trans)
  · rw [hb]
    dsimp only
    split
    · exact .replaced rfl rfl ⟨hl, ⟨[], List.append_nil _⟩, fun _ => ⟨_, rfl, hc⟩⟩
    · refine .kept rfl (.of_session (Watch.service_keeps hl _) hj fun hp => ?_)
      cases hp

omit [JobService σ] in
theorem cancelPoll_eq (e : Editor σ) :
    e.cancelPoll =
      if e.isPolling then
        (true, { e with watch := e.watch.cancel.drain, session := e.session.editCancelled?.getD e.session })
      else (false, { e with watch := e.watch.cancel }) := by
  unfold cancelPoll Watch.stop isPolling
  cases e.watch.isActive <;> rfl

omit [JobService σ] in
theorem cancelPoll_outcome {e : Editor σ} (hl : e.watch.listening = true) :
    Outcome e [] e.cancelPoll.2 false := by
  rw [cancelPoll_eq]
  cases hp : e.watch.poll with
  | none =>
    have hidle : e.isPolling = false := by simp [isPolling, Watch.isActive, hp]
    have hsame : e.watch.cancel = e.watch := by simp only [Watch.cancel, ← hp]
    rw [hidle, hsame]
    exact .kept rfl (.refl hl)
  | some p =>
    have hactive : e.isPolling = true := by simp [isPolling, Watch.isActive, hp]
    rw [hactive]
    refine .cancelled rfl rfl ⟨hl, rfl, ?_⟩
    show (e.session.editCancelled?.getD e.session).processing = false
    unfold Session.editCancelled?
    cases hs : e.session.processing with
    | true => rfl
    | false => exact hs

/-- What an operation can do. --/
theorem step_outcome {e : Editor σ} (hl : e.watch.listening = true) (op : Op) :
    Outcome e (e.heard op) (e.step op) (e.replaces op) := by
  cases op with
  | upload file => exact upload_outcome hl file
  | uploadPath path => exact uploadPath_outcome hl path
  | openJob job => exact openJob_outcome hl job
  | sendPrompt text => exact sendPrompt_outcome hl text
  | ask text => exact .kept rfl (ask_kept hl text)
  | next => exact .kept rfl (next_kept hl)
  | wait => exact .kept rfl ((wait_waits e hl).kept hl)
  | cancelPoll => exact cancelPoll_outcome hl
  | exportVideo options target => exact .kept rfl (exportVideo_kept hl options target)
  | history => exact .kept rfl (withService_kept hl _)
  | sleep wait => exact .kept rfl (sleep_kept hl wait)
  | disk disk => exact .kept rfl (.of_session (.refl hl) rfl id)

omit [JobService σ] in
theorem Outcome.listening {e e' : Editor σ} {events : List JobEvent} {replaces : Bool}
    (h : Outcome e events e' replaces) : e'.watch.listening = true := by
  cases h with
  | kept _ hk => exact hk.watch.listening
  | cancelled _ _ hc => exact hc.listening
  | replaced _ _ hr => exact hr.listening

/-- An editor always listens to its poll. --/
theorem Reachable.listening {e : Editor σ} (h : Reachable e) : e.watch.listening = true := by
  induction h with
  | opened service policy disk rendersDir responder stamp => rfl
  | step op _ ih => exact (step_outcome ih op).listening

end Editor
end Cutroom
