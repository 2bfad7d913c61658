import Cutroom.Proofs.Desk.Operation
import Cutroom.Proofs.Job.Queue

/-! The operations of an editor as motions of its watch (`Editor.step_moves`). What an operation answers with was taken
    from the front of the queue, and what is dropped is all that was unread when waiting was given up. -/

namespace Cutroom
namespace Editor

variable {σ : Type}

/-- What is dropped: all that is unread, where waiting is given up. --/
def dropped (e : Editor σ) : Op → List JobEvent
  | .cancelPoll => if e.cancelPoll.1 then e.watch.unread else []
  | _ => []

variable [JobService σ]

/-! ### Motions -/

/-- The motions until an event is unread, if one comes. --/
def awaitMotions (e : Editor σ) : List (Motion σ) := if e.watch.unread.isEmpty then [.turn] else []

/-- The motions while an event is taken in: the disk is at work where there is a video to be stored. --/
def handleMotions (s : Session) (event : JobEvent) : List (Motion σ) :=
  if (s.apply event).1.isSome then [.sleep 0] else []

def nextMotions (e : Editor σ) : List (Motion σ) :=
  match e.next.1 with
  | none => e.awaitMotions
  | some event => e.awaitMotions ++ .take :: handleMotions e.session event

def waitMotions : Nat → Editor σ → List (Motion σ)
  | 0, _ => []
  | fuel + 1, e =>
    match e.next with
    | (none, _) => e.nextMotions
    | (some event, next) => e.nextMotions ++ if event.isFinal then [] else waitMotions fuel next

def uploadMotions (e : Editor σ) (file : UploadFile) : List (Motion σ) :=
  match JobService.upload e.watch.service file with
  | (.error _, service) => [.serve service]
  | (.ok _, service) => [.serve service, .cancel]

/-- The motion while an answer is awaited, if it takes time. --/
def awaitedMotions (pause : Option Wait) : List (Motion σ) := (pause.map .sleep).toList

/-- What an operation does to the watch. --/
def motions (e : Editor σ) : Op → List (Motion σ)
  | .upload file => e.uploadMotions file
  | .uploadPath path =>
    .sleep 0 ::
      match e.settle.disk.read path with
      | .ok bytes => e.settle.uploadMotions (UploadFile.ofBytes (sentName path) bytes)
      | .error _ => []
  | .openJob job =>
    match JobService.status e.watch.service job with
    | (.error _, service) => [.serve service]
    | (.ok _, service) => [.serve service, .cancel]
  | .sendPrompt text =>
    match e.session.beginPrompt text with
    | (.error _, _) => []
    | (.ok job, _) =>
      match JobService.submitPrompt e.watch.service job (Text.trim text) with
      | (.ok _, service) => [.serve service, .start job]
      | (.error _, service) => [.serve service]
  | .ask text =>
    if (Text.trim text).isEmpty then []
    else awaitedMotions (e.responder.respond (e.session.chat.user (Text.trim text))).2
  | .next => e.nextMotions
  | .wait => waitMotions (e.eventsLeft + 1) e
  | .cancelPoll => if e.isPolling then [.cancel, .drain] else [.cancel]
  | .exportVideo options _ =>
    match e.session.job with
    | none => []
    | some job =>
      match JobService.download e.watch.service job.id (some options) with
      | (.error _, service) => [.serve service]
      | (.ok _, service) => [.serve service, .sleep 0]
  | .history => [.serve (JobService.history e.watch.service).2]
  | .sleep wait => [.sleep wait]
  | .disk _ => []

/-- What becomes of events during an operation: some are heard, or all that are unread are dropped. --/
def fates (e : Editor σ) (op : Op) : List Fate := (e.heard op).map .heard ++ (e.dropped op).map .dropped

/-- What polls send during an operation. --/
def sent (e : Editor σ) (op : Op) : List JobEvent := e.watch.sentIn (e.motions op)

/-! ### Taking events -/

theorem handle_moves (e : Editor σ) (event : JobEvent) :
    e.watch.Moves (handleMotions e.session event) [] (e.handle event).watch := by
  unfold handle handleMotions
  rcases e.session.apply event with ⟨_ | render, session⟩
  · exact ⟨rfl, rfl⟩
  · refine ⟨?_, rfl⟩
    show e.settle.watch = (finishRender _ render).watch
    rw [finishRender_watch]
    rfl

theorem await_moves (e : Editor σ) : e.watch.Moves e.awaitMotions [] (e.watch.moved e.awaitMotions) := by
  refine ⟨rfl, ?_⟩
  unfold awaitMotions
  split <;> rfl

/-- An event is taken as soon as one is unread, or none comes. --/
theorem next_first (e : Editor σ) :
    (e.watch.moved e.awaitMotions).unread = [] ∧ e.next = (none, { e with watch := e.watch.moved e.awaitMotions }) ∨
      ∃ event rest, (e.watch.moved e.awaitMotions).unread = event :: rest ∧
        e.next = (some event, handle { e with watch := { e.watch.moved e.awaitMotions with unread := rest } } event) := by
  have hnext : e.next = takeUnread { e with watch := e.watch.moved e.awaitMotions } := by
    unfold next awaitMotions
    split <;> rfl
  rw [hnext]
  cases hu : (e.watch.moved e.awaitMotions).unread with
  | nil => exact .inl ⟨rfl, by simp only [takeUnread, hu]⟩
  | cons event rest => exact .inr ⟨event, rest, rfl, by simp only [takeUnread, hu]⟩

theorem next_moves (e : Editor σ) : e.watch.Moves e.nextMotions (e.next.1.toList.map .heard) e.next.2.watch := by
  rcases e.next_first with ⟨-, hnext⟩ | ⟨event, rest, hunread, hnext⟩ <;> rw [nextMotions, hnext]
  · exact e.await_moves
  · have hhandled := handle_moves { e with watch := { e.watch.moved e.awaitMotions with unread := rest } } event
    exact e.await_moves.trans ((Watch.moves_take hunread).trans hhandled)

theorem waitFuel_moves (fuel : Nat) (e : Editor σ) :
    e.watch.Moves (waitMotions fuel e) ((e.waitFuel fuel).1.map .heard) (e.waitFuel fuel).2.watch := by
  induction fuel generalizing e with
  | zero => exact ⟨rfl, rfl⟩
  | succ fuel ih =>
    have hmoves := e.next_moves
    rcases hnext : e.next with ⟨_ | event, next⟩ <;> rw [hnext] at hmoves
    · simp only [waitFuel, waitMotions, hnext]
      exact hmoves
    · cases hf : event.isFinal with
      | true =>
        simp only [waitFuel, waitMotions, hnext, hf, if_true, List.append_nil]
        exact hmoves
      | false =>
        simp only [waitFuel, waitMotions, hnext, hf, Bool.false_eq_true, if_false]
        exact hmoves.trans (ih next)

/-! ### Other operations -/

theorem upload_moves (e : Editor σ) (file : UploadFile) :
    e.watch.Moves (e.uploadMotions file) [] (e.upload file).2.watch := by
  unfold upload uploadMotions
  rcases JobService.upload e.watch.service file with ⟨_ | receipt, service⟩ <;> exact ⟨rfl, rfl⟩

theorem settle_moves (e : Editor σ) : e.watch.Moves [.sleep 0] [] e.settle.watch := ⟨rfl, rfl⟩

theorem uploadPath_moves (e : Editor σ) (path : FilePath) :
    e.watch.Moves (e.motions (.uploadPath path)) [] (e.uploadPath path).2.watch := by
  unfold uploadPath motions
  dsimp only
  cases e.settle.disk.read path with
  | ok bytes => exact e.settle_moves.trans (e.settle.upload_moves _)
  | error err => exact e.settle_moves

theorem openJob_moves (e : Editor σ) (job : JobId) :
    e.watch.Moves (e.motions (.openJob job)) [] (e.openJob job).2.watch := by
  unfold openJob motions
  dsimp only
  rcases JobService.status e.watch.service job with ⟨_ | report, service⟩ <;> exact ⟨rfl, rfl⟩

theorem sendPrompt_moves (e : Editor σ) (text : String) :
    e.watch.Moves (e.motions (.sendPrompt text)) [] (e.sendPrompt text).2.watch := by
  unfold sendPrompt motions
  dsimp only
  rcases e.session.beginPrompt text with ⟨_ | job, session⟩
  · exact ⟨rfl, rfl⟩
  · dsimp only
    rcases JobService.submitPrompt e.watch.service job (Text.trim text) with ⟨_ | _, service⟩ <;> exact ⟨rfl, rfl⟩

theorem awaits_moves (e : Editor σ) :
    ∀ pause, e.watch.Moves (awaitedMotions pause) [] (e.awaits pause).watch
  | none => ⟨rfl, rfl⟩
  | some _ => ⟨rfl, rfl⟩

theorem ask_moves (e : Editor σ) (text : String) :
    e.watch.Moves (e.motions (.ask text)) [] (e.ask text).2.watch := by
  unfold motions ask
  dsimp only
  split
  · exact ⟨rfl, rfl⟩
  · split <;> exact awaits_moves (e.asking (Text.trim text)) _

theorem exportVideo_moves (e : Editor σ) (options : ExportOptions) (target : Option FilePath) :
    e.watch.Moves (e.motions (.exportVideo options target)) [] (e.exportVideo options target).2.watch := by
  unfold exportVideo motions
  dsimp only
  cases e.session.job with
  | none => exact ⟨rfl, rfl⟩
  | some job =>
    dsimp only
    rcases JobService.download e.watch.service job.id (some options) with ⟨_ | bytes, service⟩
    · exact ⟨rfl, rfl⟩
    · dsimp only
      split <;> exact ⟨rfl, rfl⟩

/-- An operation goes through its motions: they hear what it answers with, and drop what is unread where waiting is given
    up. --/
theorem step_moves (e : Editor σ) (op : Op) : e.watch.Moves (e.motions op) (e.fates op) (e.step op).watch := by
  -- Only `next` and `wait` hear anything, and only `cancelPoll` drops anything.
  cases op with
  | upload file => exact e.upload_moves file
  | uploadPath path => exact e.uploadPath_moves path
  | openJob job => exact e.openJob_moves job
  | sendPrompt text => exact e.sendPrompt_moves text
  | ask text =>
    rw [step]
    exact e.ask_moves text
  | next => exact ⟨e.next_moves.moved, e.next_moves.fates.trans (List.append_nil _).symm⟩
  | wait => exact ⟨(waitFuel_moves _ e).moved, (waitFuel_moves _ e).fates.trans (List.append_nil _).symm⟩
  | cancelPoll =>
    simp only [step, motions, fates, heard, dropped, cancelPoll_eq]
    split
    · exact ⟨rfl, List.append_nil _⟩
    · exact ⟨rfl, rfl⟩
  | exportVideo options target => exact e.exportVideo_moves options target
  | history | sleep | disk => exact ⟨rfl, rfl⟩

end Editor
end Cutroom
