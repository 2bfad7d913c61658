import Cutroom.Job.Status

/-! A service that answers from a script, for rehearsals without a network. Each status request takes the
    next answer of the script, and the last one is repeated for ever. All requests are recorded. -/

namespace Cutroom

structure Script where
  /-- The answers to status requests that are still to come. -/
  answers : List (Except String StatusReport)
  /-- The reply of every report that has none of its own. -/
  reply : Option String
  duration : Option Seconds
  video : ByteArray
  previous : List JobSummary
  uploadError : Option String
  promptError : Option String
  downloadError : Option String
  historyError : Option String
  uploads : Nat
  statuses : Nat
  prompts : List String
  /-- The form that each download asked for. -/
  downloads : List (Option ExportOptions)

namespace Script

/-- The job of every upload. --/
def job : JobId := ⟨"job-1"⟩

def empty : Script where
  answers := []
  reply := none
  duration := some 30.0
  video := "rendered-video".toUTF8
  previous := []
  uploadError := none
  promptError := none
  downloadError := none
  historyError := none
  uploads := 0
  statuses := 0
  prompts := []
  downloads := []

/-- The answer that is taken next; a script without answers says that the job is being processed. --/
def next (s : Script) : Except String StatusReport :=
  s.answers.headD (.ok (StatusReport.ofStatus .processing))

/-- The answers that remain: the last one is kept. --/
def remaining (answers : List (Except String StatusReport)) : List (Except String StatusReport) :=
  if 1 < answers.length then answers.drop 1 else answers

def upload (s : Script) (_ : UploadFile) : Except JobError Receipt × Script :=
  let s := { s with uploads := s.uploads + 1 }
  match s.uploadError with
  | some reason => (.error (.upload reason), s)
  | none => (.ok ⟨job, s.duration, .other "UPLOADED"⟩, s)

def submitPrompt (s : Script) (_ : JobId) (prompt : String) : Except JobError Unit × Script :=
  match s.promptError with
  | some reason => (.error (.prompt reason), s)
  | none => (.ok (), { s with prompts := s.prompts ++ [prompt] })

def status (s : Script) (_ : JobId) : Except JobError StatusReport × Script :=
  let answer := match s.next with
    | .ok report => .ok { report with reply := report.reply <|> s.reply }
    | .error reason => .error (.poll reason)
  (answer, { s with statuses := s.statuses + 1, answers := remaining s.answers })

def download (s : Script) (_ : JobId) (options : Option ExportOptions) : Except JobError ByteArray × Script :=
  let s := { s with downloads := s.downloads ++ [options] }
  match s.downloadError with
  | some reason => (.error (.export reason), s)
  | none => (.ok s.video, s)

def history (s : Script) : Except JobError (List JobSummary) × Script :=
  match s.historyError with
  | some reason => (.error (.history reason), s)
  | none => (.ok s.previous, s)

def downloadUrl (_ : Script) (job : JobId) : String := "scripted://jobs/" ++ job.text ++ "/download"

end Script

instance : JobService Script where
  upload := Script.upload
  submitPrompt := Script.submitPrompt
  status := Script.status
  download := Script.download
  history := Script.history
  downloadUrl := Script.downloadUrl

end Cutroom
