import Cutroom.Proofs.Desk.Operation

/-! A requested edit, from the prompt to its end (`Editor.sendPrompt_wait`). The poll that the prompt starts is
    all that is in store for the editor, so that waiting ends with the end of its course; the readings before
    it change nothing that the user was told, and the final event closes the edit. -/

namespace Cutroom
namespace Editor

variable {σ : Type} [JobService σ]

/-! ### The prompt -/

/-- The editor has a job and awaits no edit of it: no poll runs, and no event is unread. --/
structure Ready (e : Editor σ) (job : Job) : Prop where
  /-- An editor always listens. -/
  listening : e.watch.listening = true
  poll : e.watch.poll = none
  unread : e.watch.unread = []
  job : e.session.job = some job
  processing : e.session.processing = false

/-- The editor after the service has taken a prompt. --/
def prompted (e : Editor σ) (job : Job) (text : String) : Editor σ :=
  { e with
    session :=
      { e.session with
        chat := e.session.chat.user text
        job := some { job with prompt := some text }
        processing := true }
    watch := { e.watch with service := (JobService.submitPrompt e.watch.service job.id text).2 }.start job.id }

theorem sendPrompt_of_ready {e : Editor σ} {job : Job} {text : String} (h : e.Ready job)
    (htext : (Text.trim text).isEmpty = false)
    (htaken : (JobService.submitPrompt e.watch.service job.id (Text.trim text)).1 = .ok ()) :
    e.sendPrompt text = (.ok job.id, e.prompted job (Text.trim text)) := by
  have hbegin : e.session.beginPrompt text = (.ok job.id, (e.prompted job (Text.trim text)).session) := by
    simp only [Session.beginPrompt, h.processing, htext, h.job, Bool.false_eq_true, if_false]
    rfl
  simp only [sendPrompt, hbegin]
  rcases hs : JobService.submitPrompt e.watch.service job.id (Text.trim text) with ⟨answer, service⟩
  rw [hs] at htaken
  cases htaken
  simp only [prompted, hs]

/-- How many requests a poll of the editor makes at most. --/
def turns (e : Editor σ) : Nat := e.watch.policy.maxAttempts.toNat

theorem prompted_outlook {e : Editor σ} {job : Job} (h : e.Ready job) (text : String) :
    (e.prompted job text).watch.outlook =
      Poll.course job.id e.watch.policy.maxAttempts e.turns (JobService.submitPrompt e.watch.service job.id text).2 := by
  simp only [Watch.outlook, prompted, Watch.start, h.unread, Poll.rest, Poll.start, List.nil_append]
  rfl

/-! ### The wait -/

/-- The readings of the poll that starts at a service. --/
def readings (e : Editor σ) (job : JobId) (service : σ) : List JobEvent :=
  (Poll.heard (Poll.answers job e.turns service)).map (Poll.reading job)

/-- The final event of the poll that starts at a service, and the service when it is over. --/
def ending (e : Editor σ) (job : JobId) (service : σ) : JobEvent × σ :=
  Poll.ending job e.watch.policy.maxAttempts e.turns service

theorem readings_not_final (e : Editor σ) (job : JobId) (service : σ) :
    ∀ event ∈ e.readings job service, event.isFinal = false := by
  intro event he
  obtain ⟨a, -, rfl⟩ := List.mem_map.mp he
  exact Poll.reading_not_final job a

theorem ending_final (e : Editor σ) (job : JobId) (service : σ) :
    (e.ending job service).1.isFinal = true ∧ (e.ending job service).1.job = job :=
  Poll.ending_final job e.watch.policy.maxAttempts e.turns service

theorem wait_prompted {e : Editor σ} {job : Job} {text : String} {service : σ} (h : e.Ready job)
    (hservice : (JobService.submitPrompt e.watch.service job.id text).2 = service) :
    ∃ f, Closing (e.prompted job text) f ∧ f.watch.service = (e.ending job.id service).2 ∧
      (e.prompted job text).wait.2 = f.handle (e.ending job.id service).1 := by
  have hl : (e.prompted job text).watch.listening = true := h.listening
  have ho := prompted_outlook h text
  rw [hservice, Poll.course_eq] at ho
  have hreadings := e.readings_not_final job.id service
  have hfinal := (e.ending_final job.id service).1
  obtain ⟨-, f, hf, hend⟩ := (wait_waits _ hl).ends_store hl (congrArg Prod.fst ho) hreadings hfinal
  exact ⟨f, hf, hf.service.trans (congrArg Prod.snd ho), hend⟩

/-! ### The end of the edit -/

/-- Where an editor keeps a video that it writes to a disk. --/
def keeps (e : Editor σ) (disk : Disk) (job : JobId) (video : ByteArray) : Except DiskError FilePath :=
  (store { e with disk := disk } ⟨job, none, video⟩).1

/-- What becomes of the preview and of the alerts, by what became of the video that the poll was to fetch. They
    stay as they were where there was none; else the preview plays the video, or an alert says why not. --/
def Shown (e e' : Editor σ) (job : JobId) : Option (Except JobError ByteArray) → Prop
  | none => e'.session.source = e.session.source ∧ e'.session.alerts = e.session.alerts
  | some (.error err) =>
    e'.session.source = e.session.source ∧ e'.session.alerts = e.session.alerts ++ [unavailable err.message]
  | some (.ok video) =>
    match e'.keeps e.disk job video with
    | .ok path =>
      e'.session.source = some (.file path) ∧ e'.disk.read path = .ok video ∧ e'.session.alerts = e.session.alerts
    | .error err =>
      e'.session.source = e.session.source ∧ e'.session.alerts = e.session.alerts ++ [unavailable err.message]

/-- How an edit comes out that was requested from `e`, where `service` is the service that has taken the
    prompt. --/
structure Concluded (e e' : Editor (Recorded σ)) (job : JobId) (text : String) (service : σ) : Prop where
  processing : e'.session.processing = false
  idle : e'.isPolling = false
  /-- One prompt, a status request for each answer that the poll hears, and a download of a new video. -/
  requests : e'.watch.service.requests =
    e.watch.service.requests ++ [.prompt job text] ++
      List.replicate (Poll.heard (Poll.answers job e.turns service)).length (.status job) ++
        if Poll.completes (Poll.answers job e.turns service) then [.download job none] else []
  /-- The user has spoken and then the assistant, and the job keeps what the assistant said. -/
  reply : ∃ reply, e'.session.chat = (e.session.chat.user text).assistant reply ∧
    e'.session.job.map Job.reply = some (some reply)
  video : Shown e e' job (Poll.fetched job e.turns service)

omit [JobService σ] in
/-- Where videos are stored, and how, depends on the directory for them, the moment and the disk. --/
theorem store_congr {e₁ e₂ : Editor σ} (hdir : e₁.rendersDir = e₂.rendersDir) (hstamp : e₁.stamp = e₂.stamp)
    (hwatch : e₁.watch = e₂.watch) (hdisk : e₁.disk = e₂.disk) (render : PendingRender) :
    e₁.store render = e₂.store render := by
  simp only [store, renderPath, hdir, hstamp, hwatch, hdisk]

theorem store_handle {e : Editor σ} (h : e.watch.poll = none) (event : JobEvent) (render : PendingRender) :
    store { e.handle event with disk := e.disk } render = e.store render := by
  obtain ⟨hdir, hstamp⟩ := handle_names e event
  refine store_congr ?_ ?_ ?_ ?_ render
  · exact hdir
  · exact hstamp
  · exact handle_watch_of_idle h event
  · rfl

theorem keeps_handle {e : Editor σ} (h : e.watch.poll = none) (event : JobEvent) (job : JobId) (video : ByteArray) :
    (e.handle event).keeps e.disk job video = (e.settle.store ⟨job, none, video⟩).1 := by
  rw [settle_of_idle h]
  exact congrArg Prod.fst (store_handle h event _)

theorem handle_shown {e : Editor σ} {event : JobEvent} {fetched : Option (Except JobError ByteArray)}
    (hp : e.watch.poll = none) (hc : e.session.isCurrent event.job = true)
    (hv : event.video? = fetched.map (Except.mapError JobError.message)) :
    Shown e (e.handle event) event.job fetched := by
  match fetched with
  | none => exact handle_no_video e hv
  | some (.error err) => exact handle_unfetched e hv hc
  | some (.ok video) =>
    have hkeeps := keeps_handle hp event event.job video
    unfold Shown
    simp only [hkeeps]
    rcases hstore : e.settle.store ⟨event.job, none, video⟩ with ⟨err | path, disk⟩
    · exact handle_unstored hv hc hstore
    · obtain ⟨hdisk, hsource, halerts⟩ := handle_stored hv hc hstore
      refine ⟨hsource, ?_, halerts⟩
      rw [hdisk]
      exact store_read hstore

omit [JobService σ] in
theorem Shown.congr {e₁ e₂ e' : Editor σ} {job : JobId} {fetched : Option (Except JobError ByteArray)}
    (h : Shown e₁ e' job fetched) (hs : Session.Undisturbed e₂.session e₁.session) (hd : e₁.disk = e₂.disk) :
    Shown e₂ e' job fetched := by
  unfold Shown at h ⊢
  rw [hs.source, hs.alerts, hd] at h
  exact h

/-- A prompt that the service takes is followed up until its edit has come to an end: waiting terminates, with
    nothing left to wait for. --/
theorem sendPrompt_wait {e : Editor (Recorded σ)} {job : Job} {text : String} (h : e.Ready job)
    (htext : (Text.trim text).isEmpty = false)
    (htaken : (JobService.submitPrompt e.watch.service job.id (Text.trim text)).1 = .ok ()) :
    (e.sendPrompt text).1 = .ok job.id ∧
      Waits (e.sendPrompt text).2 (e.sendPrompt text).2.wait.1 (e.sendPrompt text).2.wait.2 ∧
      Concluded e (e.sendPrompt text).2.wait.2 job.id (Text.trim text)
        (JobService.submitPrompt e.watch.service.service job.id (Text.trim text)).2 := by
  rw [sendPrompt_of_ready h htext htaken]
  refine ⟨rfl, wait_waits _ h.listening, ?_⟩
  generalize Text.trim text = text at *
  generalize hs : (JobService.submitPrompt e.watch.service job.id text).2 = service
  obtain ⟨f, hclosing, hservice, hend⟩ := wait_prompted h hs
  have hinner : (JobService.submitPrompt e.watch.service.service job.id text).2 = service.service := by
    rw [← hs]
    rfl
  have hrequests : service.requests = e.watch.service.requests ++ [.prompt job.id text] := by
    rw [← hs]
    rfl
  obtain ⟨hfinal, hjob⟩ := e.ending_final job.id service
  have hid : f.session.job.map Job.id = some job.id := hclosing.session.job
  have hcurrent : (e.prompted job text).session.isCurrent (e.ending job.id service).1.job = true :=
    Session.isCurrent_iff.mpr (congrArg some hjob.symm)
  obtain ⟨hclosed, hidle⟩ := hclosing.closed hfinal hcurrent
  rw [hend, hinner]
  constructor
  case processing => exact hclosed.processing
  case idle => exact hidle
  case requests =>
    rw [handle_watch_of_idle hclosing.poll, hservice, ending, Recorded.ending_requests, hrequests]
  case reply =>
    obtain ⟨reply, hchat, hkept⟩ := hclosed.reply
    refine ⟨reply, by rw [hchat, hclosing.session.chat]; rfl, ?_⟩
    obtain ⟨j, hj, -⟩ := Option.map_eq_some_iff.mp hid
    rw [hkept, hj]
    rfl
  case video =>
    rw [← Session.isCurrent_congr hclosing.session.job] at hcurrent
    have hshown := handle_shown hclosing.poll hcurrent (Poll.ending_video job.id _ e.turns service)
    rw [hjob, Recorded.fetched_eq] at hshown
    have hprompted : Shown (e.prompted job text) _ job.id _ := hshown.congr hclosing.session hclosing.disk
    exact hprompted

/-- A rehearsal whose service fails once before it tells of a new video. --/
def rehearsedFailure : Editor (Recorded Script) := rehearsal [.error "no route", .ok (.ofStatus .completed)]

theorem sendPrompt_wait_of_rehearsal :
    rehearsedFailure.Ready (.ofReceipt ⟨Script.job, none, .other "UPLOADED"⟩) ∧ (Text.trim " cut").isEmpty = false ∧
      (JobService.submitPrompt rehearsedFailure.watch.service Script.job (Text.trim " cut")).1 = .ok () ∧
      (rehearsedFailure.sendPrompt " cut").2.wait.2.watch.service.requests =
        rehearsedFailure.watch.service.requests ++
          [.prompt Script.job "cut", .status Script.job, .status Script.job, .download Script.job none] := by
  have hready : rehearsedFailure.Ready (.ofReceipt ⟨Script.job, none, .other "UPLOADED"⟩) := ⟨rfl, rfl, rfl, rfl, rfl⟩
  have htext : (Text.trim " cut").isEmpty = false := by decide
  have htrim : Text.trim " cut" = "cut" := by decide
  obtain ⟨-, -, hconcluded⟩ := sendPrompt_wait hready htext rfl
  refine ⟨hready, htext, rfl, hconcluded.requests.trans ?_⟩
  rw [htrim, List.append_assoc, List.append_assoc]
  rfl

end Editor
end Cutroom
