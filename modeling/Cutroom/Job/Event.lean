import Cutroom.Job.Status

/-! What is learned while a job is polled. Any number of `status` and `pollError` events is followed by one
    final event, after which the poll is over. -/

namespace Cutroom

inductive JobEvent where
  /-- A status was read, final or not. -/
  | status (job : JobId) (report : StatusReport)
  /-- The job has made a new video, which has been fetched. -/
  | completed (job : JobId) (reply : Option String) (video : ByteArray)
  /-- The job ended with an answer; the video is as it was. -/
  | chatOnly (job : JobId) (reply : Option String)
  | failed (job : JobId) (reason : String)
  /-- A status could not be read; the poll goes on. -/
  | pollError (job : JobId) (message : String)
  /-- The job has made a new video, which could not be fetched. -/
  | refreshFailed (job : JobId) (reply : Option String) (message : String)
  /-- The job was asked about as often as is allowed. -/
  | timedOut (job : JobId) (attempts : UInt32)

namespace JobEvent

def job : JobEvent → JobId
  | status job _ | completed job _ _ | chatOnly job _ | failed job _ | pollError job _
  | refreshFailed job _ _ | timedOut job _ => job

def isFinal : JobEvent → Bool
  | status _ _ | pollError _ _ => false
  | _ => true

/-- The reason of a failure for which the service gives none. --/
def noReason : String := "the server did not give a reason"

end JobEvent
end Cutroom
