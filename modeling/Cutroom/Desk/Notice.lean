import Cutroom.Job.Status
import Cutroom.Storage.Disk
import Cutroom.Timeline.Clip

/-! What the editor tells its user: where the preview plays from, alerts, and why a request is refused. -/

namespace Cutroom

/-- Where the preview plays from. --/
inductive VideoSource where
  /-- Streamed from the service. -/
  | remote (url : String)
  /-- A finished video on disk. -/
  | file (path : FilePath)
deriving DecidableEq

/-- The source as a clip refers to it. --/
def VideoSource.media : VideoSource → MediaRef
  | remote url => ⟨url⟩
  | file path => ⟨path.text⟩

inductive AlertKind where
  | upload
  | export
deriving DecidableEq

/-- A failure that the user has to see. --/
structure Alert where
  kind : AlertKind
  message : String
deriving DecidableEq

/-- Why a request of the user is refused. --/
inductive SessionError where
  | noVideo
  | noSelection
  | noJob
  | busy
  | emptyMessage
  | unknownPreset (name : String)
  | timeline (e : TimelineError)
  | job (e : JobError)
  | disk (e : DiskError)

def SessionError.message : SessionError → String
  | noVideo => "no video loaded"
  | noSelection => "no clip selected"
  | noJob => "no job yet: upload a video first"
  | busy => "an edit is already in progress"
  | emptyMessage => "message is empty"
  | unknownPreset name => "unknown preset: " ++ name
  | timeline e => e.message
  | job e => e.message
  | disk e => "storage error: " ++ e.message

end Cutroom
