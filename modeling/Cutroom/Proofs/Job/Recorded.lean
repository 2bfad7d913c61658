import Cutroom.Proofs.Job.Course

/-! A service that keeps a record of the requests made to it. It answers as the service that it records, so
    that a run with the record is a run without it. -/

namespace Cutroom

/-- A request to the service. --/
inductive JobRequest where
  | upload (file : UploadFile)
  | prompt (job : JobId) (text : String)
  | status (job : JobId)
  | download (job : JobId) (options : Option ExportOptions)
  | history

/-- The text of a prompt. --/
def JobRequest.prompt? : JobRequest → Option String
  | .prompt _ text => some text
  | _ => none

structure Recorded (σ : Type) where
  service : σ
  /-- The requests so far, the latest one last. -/
  requests : List JobRequest

namespace Recorded

variable {σ : Type}

/-- The answer of the service, and the service and its record after a request. --/
def note {α : Type} (s : Recorded σ) (request : JobRequest) (outcome : α × σ) : α × Recorded σ :=
  (outcome.1, ⟨outcome.2, s.requests ++ [request]⟩)

/-- The prompts of a record, the latest one last. --/
def prompts (s : Recorded σ) : List String := s.requests.filterMap JobRequest.prompt?

theorem note_prompts {α : Type} (s : Recorded σ) {request : JobRequest} (h : request.prompt? = none)
    (outcome : α × σ) : (s.note request outcome).2.prompts = s.prompts := by
  simp [prompts, note, h]

variable [JobService σ]

instance : JobService (Recorded σ) where
  upload s file := s.note (.upload file) (JobService.upload s.service file)
  submitPrompt s job text := s.note (.prompt job text) (JobService.submitPrompt s.service job text)
  status s job := s.note (.status job) (JobService.status s.service job)
  download s job options := s.note (.download job options) (JobService.download s.service job options)
  history s := s.note .history (JobService.history s.service)
  downloadUrl s := JobService.downloadUrl s.service

theorem answers_eq (job : JobId) (n : Nat) (s : Recorded σ) :
    Poll.answers job n s = Poll.answers job n s.service := by
  induction n generalizing s with
  | zero => rfl
  | succ n ih => exact congrArg _ (ih _)

theorem asked_service (job : JobId) (n : Nat) (s : Recorded σ) :
    (Poll.asked job n s).service = Poll.asked job n s.service := by
  induction n generalizing s with
  | zero => rfl
  | succ n ih => exact ih _

theorem asked_requests (job : JobId) (n : Nat) (s : Recorded σ) :
    (Poll.asked job n s).requests = s.requests ++ List.replicate n (.status job) := by
  induction n generalizing s with
  | zero => simp [Poll.asked]
  | succ n ih =>
    have hnext : (JobService.status s job).2.requests = s.requests ++ [.status job] := rfl
    rw [Poll.asked, ih, hnext, List.append_assoc, List.replicate_succ, List.singleton_append]

theorem fetched_eq (job : JobId) (n : Nat) (s : Recorded σ) : Poll.fetched job n s = Poll.fetched job n s.service := by
  unfold Poll.fetched
  rw [answers_eq, ← asked_service]
  rfl

/-- A poll asks once for each answer that it hears, and downloads once where it is to fetch a video. --/
theorem ending_requests (job : JobId) (attempts : UInt32) (n : Nat) (s : Recorded σ) :
    (Poll.ending job attempts n s).2.requests =
      s.requests ++ List.replicate (Poll.heard (Poll.answers job n s.service)).length (.status job) ++
        if Poll.completes (Poll.answers job n s.service) then [.download job none] else [] := by
  rw [← asked_requests, ← answers_eq, Poll.ending_service]
  cases Poll.completes (Poll.answers job n s) with
  | false => simp
  | true => rfl

end Recorded
end Cutroom
