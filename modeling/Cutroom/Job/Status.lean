import Cutroom.Job.Media
import Cutroom.Text.Letter
import Cutroom.Timeline.Seconds

/-! Jobs at the remote edit service: one uploaded video and the edits requested for it. A job is known by
    the identifier that the service gave it, and stands as the service last reported. What can be asked of the service is
    a class, so that there may be more than one. -/

namespace Cutroom

/-- A job's identifier, kept as text whatever the service sent. --/
structure JobId where
  text : String
deriving DecidableEq

/-- The state of a job. A state that is not known is kept as it came, and the job counts as running. --/
inductive JobStatus where
  | queued
  | processing
  | completed
  | chatOnly
  | failed
  | other (text : String)
deriving DecidableEq

namespace JobStatus

/-- The name of a known state. --/
def known? (name : String) : Option JobStatus :=
  [("QUEUED", queued), ("PROCESSING", processing), ("COMPLETED", completed), ("CHAT_ONLY", chatOnly),
    ("FAILED", failed)].lookup name

/-- Reads a state; white space around it and the case of its letters do not matter. --/
def ofText (s : String) : JobStatus := (known? (Text.upper (Text.trim s))).getD (other s)

def text : JobStatus → String
  | queued => "QUEUED"
  | processing => "PROCESSING"
  | completed => "COMPLETED"
  | chatOnly => "CHAT_ONLY"
  | failed => "FAILED"
  | other s => s

/-- Nothing more is expected of the job. --/
def isTerminal : JobStatus → Bool
  | completed | chatOnly | failed => true
  | _ => false

end JobStatus

/-- What the service says about a job. --/
structure StatusReport where
  status : JobStatus
  duration : Option Seconds
  prompt : Option String
  reply : Option String
  error : Option String

def StatusReport.ofStatus (status : JobStatus) : StatusReport := ⟨status, none, none, none, none⟩

/-- The accepted upload of a video. --/
structure Receipt where
  job : JobId
  duration : Option Seconds
  status : JobStatus

/-- What the editor knows of a job. --/
structure Job where
  id : JobId
  status : JobStatus
  duration : Option Seconds
  prompt : Option String
  reply : Option String

namespace Job

def ofReceipt (r : Receipt) : Job := ⟨r.job, r.status, r.duration, none, none⟩

/-- Takes over what a report says; what it leaves out stays as it was. --/
def observe (j : Job) (r : StatusReport) : Job :=
  { j with
    status := r.status
    duration := r.duration <|> j.duration
    prompt := r.prompt <|> j.prompt
    reply := r.reply <|> j.reply }

end Job

/-- One row of the list of previous jobs. --/
structure JobSummary where
  id : JobId
  status : JobStatus
  prompt : Option String
  created : Option String
deriving DecidableEq

/-- Why a request about a job fails. --/
inductive JobError where
  | upload (reason : String)
  | prompt (reason : String)
  | poll (reason : String)
  | failed (job : JobId) (reason : String)
  | export (reason : String)
  | history (reason : String)
  | client (reason : String)
  | auth (reason : String)
  | missing (field : String)
deriving DecidableEq

def JobError.message : JobError → String
  | upload reason => "upload failed: " ++ reason
  | prompt reason => "prompt submission failed: " ++ reason
  | poll reason => "status poll failed: " ++ reason
  | failed job reason => "job " ++ job.text ++ " failed: " ++ reason
  | .export reason => "export failed: " ++ reason
  | history reason => "job history unavailable: " ++ reason
  | client reason => "HTTP client setup failed: " ++ reason
  | auth reason => "authentication failed: " ++ reason
  | missing field => "invalid response: missing " ++ field

/-- The remote service that edits videos. Each request may change the service, and answers with a value or with the
    reason why there is none. --/
class JobService (σ : Type) where
  /-- Stores a video and opens a job for it. -/
  upload : σ → UploadFile → Except JobError Receipt × σ
  /-- Requests an edit in words. -/
  submitPrompt : σ → JobId → String → Except JobError Unit × σ
  status : σ → JobId → Except JobError StatusReport × σ
  /-- Fetches the present video of a job, in the given form or as it is. -/
  download : σ → JobId → Option ExportOptions → Except JobError ByteArray × σ
  /-- The previous jobs of the user. -/
  history : σ → Except JobError (List JobSummary) × σ
  /-- Where a player can stream the video of a job from. -/
  downloadUrl : σ → JobId → String

end Cutroom
