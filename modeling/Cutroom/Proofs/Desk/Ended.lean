import Cutroom.Proofs.Desk.Prompted
import Cutroom.Proofs.Desk.Sheltered

/-! A requested edit from its beginning to its end, whatever the service answers. An editor begins anew with a video that
    it has uploaded or with a job that it has opened (`Editor.Begun`), and is ready for a prompt then. Where the prompt is
    taken, waiting ends the edit (`Editor.wait_ended`): the disk is as it was unless there was a video to store. -/

namespace Cutroom
namespace Editor

variable {σ : Type} [JobService σ]

/-! ### The beginning -/

/-- The editor polls nothing and has no event to read. --/
structure Idle (e : Editor σ) : Prop where
  listening : e.watch.listening = true
  poll : e.watch.poll = none
  unread : e.watch.unread = []

omit [JobService σ] in
theorem opened_idle (service : σ) (policy : PollPolicy) (disk : Disk) (rendersDir : FilePath) (stamp : Wait → String) :
    Idle (opened service policy disk rendersDir stamp) := ⟨rfl, rfl, rfl⟩

/-- An editor has begun anew with a job. --/
structure Begun (e e' : Editor σ) (job : JobId) : Prop where
  ready : ∃ j, j.id = job ∧ e'.Ready j
  chat : e'.session.chat = e.session.chat
  streams : ∃ url, e'.session.source = some (.remote url)
  disk : e'.disk = e.disk
  rendersDir : e'.rendersDir = e.rendersDir

variable {e e' : Editor σ} {job : JobId}

theorem upload_begun {file : UploadFile} (he : e.Idle) (h : e.upload file = (.ok job, e')) : Begun e e' job := by
  unfold upload at h
  rcases hs : JobService.upload e.watch.service file with ⟨err | receipt, service⟩ <;> rw [hs] at h <;> cases h
  exact ⟨⟨.ofReceipt receipt, rfl, ⟨he.listening, rfl, he.unread, rfl, rfl⟩⟩, rfl, ⟨_, rfl⟩, rfl, rfl⟩

theorem uploadPath_begun {file : FilePath} (he : e.Idle) (h : e.uploadPath file = (.ok job, e')) : Begun e e' job := by
  unfold uploadPath at h
  rw [settle_of_idle he.poll] at h
  dsimp only at h
  split at h
  · exact upload_begun he h
  · cases h

theorem openJob_begun (he : e.Idle) (h : e.openJob job = (.ok (), e')) : Begun e e' job := by
  unfold openJob at h
  rcases hs : JobService.status e.watch.service job with ⟨err | report, service⟩ <;> rw [hs] at h <;> cases h
  have hseen := (e.session.uploaded ⟨job, report.duration, report.status⟩
    (.remote (JobService.downloadUrl service job))).observe_undisturbed job report
  obtain ⟨j, hj, hid⟩ := Option.map_eq_some_iff.mp hseen.job
  exact ⟨⟨j, hid, ⟨he.listening, rfl, he.unread, hj, hseen.processing⟩⟩, hseen.chat, ⟨_, hseen.source⟩, rfl, rfl⟩

/-! ### The prompt -/

theorem sendPrompt_taken {j : Job} {text : String} (h : e.Ready j) (hs : e.sendPrompt text = (.ok job, e')) :
    job = j.id ∧ e' = e.prompted j (Text.trim text) := by
  cases htext : (Text.trim text).isEmpty with
  | true =>
    simp only [sendPrompt, Session.beginPrompt, h.processing, htext, Bool.false_eq_true, if_false, if_true] at hs
    cases hs
  | false =>
    cases htaken : (JobService.submitPrompt e.watch.service j.id (Text.trim text)).1 with
    | error err =>
      simp only [sendPrompt, Session.beginPrompt, h.processing, htext, h.job, Bool.false_eq_true, if_false] at hs
      split at hs <;> rename_i hsubmit <;> rw [hsubmit] at htaken <;> cases htaken
      cases hs
    | ok _ =>
      rw [sendPrompt_of_ready h htext htaken] at hs
      cases hs
      exact ⟨rfl, rfl⟩

/-! ### The wait -/

omit [JobService σ] in
/-- When a video cannot be stored, the directory for videos is all that has been made; but where trouble was to come, the
    file of the video may have been begun. --/
theorem store_failed {render : PendingRender} {err : DiskError} (h : (e.store render).1 = .error err) {place : Location}
    (hplace : e.disk.troubles = [] ∨ place ≠ (e.renderPath render.job).resolve e.disk.home) :
    (e.store render).2.node? place = (e.disk.ensureTree e.rendersDir).2.node? place := by
  have hfurnished := e.disk.ensureTree_furnished e.rendersDir
  unfold store at h ⊢
  rcases htree : e.disk.ensureTree e.rendersDir with ⟨err | _, tree⟩
  · rfl
  · rw [htree] at h hfurnished
    dsimp only at h ⊢
    have hhome := (hfurnished.grown fun _ => False).home
    rcases hwrite : tree.write (e.renderPath render.job) render.video with ⟨err | _, written⟩
    · exact Disk.write_failed hwrite (hplace.imp hfurnished.calm fun hne => by rwa [hhome])
    · rw [hwrite] at h
      cases h

theorem handle_disk (hp : e.watch.poll = none) {event : JobEvent} (hc : e.session.isCurrent event.job = true) :
    (e.handle event).disk =
      match event.video? with
      | some (.ok video) => (e.store ⟨event.job, none, video⟩).2
      | _ => e.disk := by
  cases event with
  | completed job reply video =>
    have hcurrent : e.session.isCurrent job = true := hc
    rw [handle_completed e hcurrent, finishRender_disk, settle_of_idle hp]
    rfl
  | status | chatOnly | failed | pollError | refreshFailed | timedOut => rfl

theorem waitFuel_rendersDir (fuel : Nat) (e : Editor σ) : (e.waitFuel fuel).2.rendersDir = e.rendersDir := by
  induction fuel generalizing e with
  | zero => rfl
  | succ fuel ih =>
    unfold waitFuel
    rcases e.next_cases with ⟨w, hn⟩ | ⟨event, w, hn⟩ <;> rw [hn]
    have hnames := (handle_names { e with watch := w } event).1
    dsimp only
    split
    · exact hnames
    · exact (ih _).trans hnames

theorem wait_rendersDir (e : Editor σ) : e.wait.2.rendersDir = e.rendersDir := waitFuel_rendersDir _ e

/-- The disk after an edit, by what became of the video that was to be fetched: only one that is stored changes it. --/
def diskAfter (e e' : Editor σ) (job : JobId) : Option (Except JobError ByteArray) → Disk
  | some (.ok video) => (store { e' with disk := e.disk } ⟨job, none, video⟩).2
  | _ => e.disk

/-- How an edit comes out by what became of the video that was to be fetched. --/
structure Ended (e e' : Editor σ) (job : JobId) (fetched : Option (Except JobError ByteArray)) : Prop where
  chat : e.session.chat.messages <+: e'.session.chat.messages
  shown : Shown e e' job fetched
  disk : e'.disk = diskAfter e e' job fetched

/-- Waiting after a prompt ends the edit. --/
theorem wait_ended {j : Job} (h : e.Ready j) (text : String) :
    Ended (e.prompted j text) (e.prompted j text).wait.2 j.id
      (Poll.fetched j.id e.turns (JobService.submitPrompt e.watch.service j.id text).2) := by
  generalize hs : (JobService.submitPrompt e.watch.service j.id text).2 = service
  obtain ⟨f, hclosing, -, hend⟩ := wait_prompted h hs
  obtain ⟨hfinal, hjob⟩ := e.ending_final j.id service
  have hid : f.session.job.map Job.id = some j.id := hclosing.session.job
  have hcurrent : f.session.isCurrent (e.ending j.id service).1.job = true :=
    Session.isCurrent_iff.mpr (hid.trans (congrArg some hjob.symm))
  have hvideo : (e.ending j.id service).1.video? =
      (Poll.fetched j.id e.turns service).map (Except.mapError JobError.message) :=
    Poll.ending_video j.id _ e.turns service
  obtain ⟨-, reply, hchat, -⟩ := handle_closed f hfinal hcurrent
  have hshown := handle_shown hclosing.poll hcurrent hvideo
  have hdisk := handle_disk hclosing.poll hcurrent
  have hstore := store_handle hclosing.poll (e.ending j.id service).1
  rw [hclosing.disk] at hstore
  rw [hend]
  constructor
  case chat =>
    rw [hchat, hclosing.session.chat]
    exact List.prefix_append _ _
  case shown =>
    rw [hjob] at hshown
    exact hshown.congr hclosing.session hclosing.disk
  case disk =>
    rw [hvideo, hjob] at hdisk
    rw [hdisk]
    rcases Poll.fetched j.id e.turns service with _ | ⟨err | video⟩
    · exact hclosing.disk
    · exact hclosing.disk
    · exact congrArg Prod.snd (hstore _).symm

/-- A prompt that is taken only starts the poll that waiting ends. --/
theorem sendPrompt_ended {j : Job} {text : String} (h : e.Ready j) (hs : e.sendPrompt text = (.ok job, e')) :
    Ended e' e'.wait.2 job (Poll.fetched job e'.turns e'.watch.service) ∧ e'.session.source = e.session.source ∧
      e'.disk = e.disk ∧ e'.rendersDir = e.rendersDir := by
  obtain ⟨rfl, rfl⟩ := sendPrompt_taken h hs
  exact ⟨wait_ended h (Text.trim text), rfl, rfl, rfl⟩

end Editor
end Cutroom
