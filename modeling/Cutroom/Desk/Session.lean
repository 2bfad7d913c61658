import Cutroom.Assistant.Chat
import Cutroom.Desk.Notice
import Cutroom.Job.Event
import Cutroom.Look.Panels
import Cutroom.Text.Letter
import Cutroom.Timeline.History
import Cutroom.Timeline.Lane
import Cutroom.Timeline.Playhead

/-! The state behind one open editor, and what changes it. Requests to the service and to the disk are made
    elsewhere; what comes of them is told to the session.

    The lanes that are shown are always the current state of the history, and the playhead knows the
    length of the project. -/

namespace Cutroom

/-- A finished video that still has to be written to disk. --/
structure PendingRender where
  job : JobId
  reply : Option String
  video : ByteArray

structure Session where
  hasVideo : Bool
  clips : Lane
  audio : Lane
  selected : Option Identifier
  history : History Snapshot
  playhead : Playhead
  zoom : Zoom
  videoLength : Option Seconds
  source : Option VideoSource
  job : Option Job
  processing : Bool
  chat : ChatLog
  panels : Panels
  alerts : List Alert
  /-- How many identifiers have been made. -/
  made : Nat

namespace Session

def opened : Session where
  hasVideo := false
  clips := []
  audio := []
  selected := none
  history := .single .empty
  playhead := .atRest
  zoom := .standard
  videoLength := none
  source := none
  job := none
  processing := false
  chat := .opened
  panels := .untouched
  alerts := []
  made := 0

/-! ### The project -/

/-- The length of the project: that of the video, or the furthest end of a clip if that is later. --/
def length (s : Session) : Seconds := Seconds.later (s.videoLength.getD 0.0) (contentEnd s.clips s.audio)

/-- The identifier that is made next. --/
def fresh (s : Session) : Identifier := .made (s.made + 1)

def takeFresh (s : Session) : Session := { s with made := s.made + 1 }

/-- Tells the playhead the length of the project. --/
def measure (s : Session) : Session := { s with playhead := s.playhead.setDuration s.length }

/-- Shows new lanes, and stores them in the history. --/
def commit (s : Session) (clips audio : Lane) : Session :=
  measure { s with clips := clips, audio := audio, history := s.history.push ⟨clips, audio⟩ }

/-- The clip lane holds a clip with an identifier. --/
def holds (s : Session) (id : Identifier) : Bool := s.clips.any fun c => c.id == id

/-- Drops the selection of a clip that is not there. --/
def reselect (s : Session) : Session := { s with selected := s.selected.filter s.holds }

/-- Shows the current state of a history. --/
def restore (s : Session) (h : History Snapshot) : Session :=
  measure (reselect { s with clips := h.current.clips, audio := h.current.audio, history := h })

def needVideo (s : Session) : Except SessionError Unit := if s.hasVideo then .ok () else .error .noVideo

def needSelection (s : Session) : Except SessionError Identifier :=
  match s.needVideo, s.selected with
  | .error e, _ => .error e
  | .ok _, none => .error .noSelection
  | .ok _, some id => .ok id

/-! ### Uploads -/

/-- Starts anew with an uploaded video: its one clip fills the clip lane and is selected. --/
def uploaded (s : Session) (receipt : Receipt) (source : VideoSource) : Session :=
  let seed := Lane.mainClip s.fresh receipt.duration (some source.media)
  commit
    { s.takeFresh with
      hasVideo := true
      job := some (Job.ofReceipt receipt)
      videoLength := receipt.duration.filter fun d => 0.0 < d
      source := some source
      processing := false
      selected := some seed.id }
    [seed] s.audio

def alert (s : Session) (kind : AlertKind) (message : String) : Session :=
  { s with alerts := s.alerts ++ [⟨kind, message⟩] }

def uploadFailed (s : Session) (e : JobError) : Session := s.alert .upload e.message

/-- Takes a length of the video that has become known. A clip that was placed without a length takes it,
    also in the history; this is no edit that could be undone. --/
def setVideoLength (s : Session) (duration : Seconds) : Session :=
  if duration.isLength then
    measure
      { s with
        videoLength := some duration
        clips := s.clips.stretch duration
        history := if s.clips.stretches duration then s.history.amend fun t => t.stretch duration else s.history }
  else s

/-! ### Edits -/

def select (s : Session) : Option Identifier → Except SessionError Session
  | some id => if s.holds id then .ok { s with selected := some id } else .error (.timeline (.clipNotFound id))
  | none => .ok { s with selected := none }

/-- Splits the selected clip at the playhead. --/
def cut (s : Session) : Except SessionError Session :=
  match s.needSelection with
  | .error e => .error e
  | .ok id =>
    match s.clips.cut id s.fresh s.playhead.time with
    | .error e => .error (.timeline e)
    | .ok clips => .ok (s.takeFresh.commit clips s.audio)

/-- Pulls in the end of the selected clip. --/
def trim (s : Session) : Except SessionError Session :=
  match s.needSelection with
  | .error e => .error e
  | .ok id =>
    match s.clips.trim id trimStep with
    | .error e => .error (.timeline e)
    | .ok clips => .ok (s.commit clips s.audio)

def delete (s : Session) : Except SessionError Session :=
  match s.needSelection with
  | .error e => .error e
  | .ok id =>
    match s.clips.delete id with
    | .error e => .error (.timeline e)
    | .ok clips => .ok (commit { s with selected := none } clips s.audio)

def addMedia (s : Session) (name : String) (source : Option MediaRef) : Except SessionError Session :=
  match s.needVideo with
  | .error e => .error e
  | .ok _ =>
    match s.clips.append s.fresh name source with
    | .error e => .error (.timeline e)
    | .ok clips => .ok (s.takeFresh.commit clips s.audio)

def addMusic (s : Session) (name : String) (source : Option MediaRef) : Except SessionError Session :=
  match s.needVideo with
  | .error e => .error e
  | .ok _ =>
    match s.audio.addMusic s.fresh name source s.length with
    | .error e => .error (.timeline e)
    | .ok audio => .ok (s.takeFresh.commit s.clips audio)

def undo? (s : Session) : Option Session := s.history.undo?.map s.restore

def redo? (s : Session) : Option Session := s.history.redo?.map s.restore

/-! ### Side panels -/

/-- Drops an effect at the playhead. --/
def applyEffect (s : Session) (name : String) : Except SessionError Session :=
  match s.needVideo with
  | .error e => .error e
  | .ok _ => .ok { s.takeFresh with panels := s.panels.addEffect s.fresh name s.playhead.time }

def applyTransition (s : Session) (name : String) : Except SessionError Session :=
  match s.needSelection with
  | .error e => .error e
  | .ok clip => .ok { s.takeFresh with panels := s.panels.setTransition s.fresh name clip }

def applyFilter (s : Session) (id : String) : Except SessionError Session :=
  match s.needVideo, findFilter? id with
  | .error e, _ => .error e
  | .ok _, none => .error (.unknownPreset id)
  | .ok _, some filter => .ok { s with panels := s.panels.applyFilter filter }

def applyPreset (s : Session) (name : String) : Except SessionError Session :=
  match findPreset? name with
  | none => .error (.unknownPreset name)
  | some preset => .ok { s with panels := s.panels.applyPreset preset }

def adjust (s : Session) (key : Adjustment) (value : Int) : Session :=
  { s with panels := { s.panels with adjustments := s.panels.adjustments.set key value } }

def addText (s : Session) (style : TextStyle) : Session :=
  { s.takeFresh with panels := s.panels.addText s.fresh style }

def addSticker (s : Session) (name glyph : String) : Session :=
  { s.takeFresh with panels := s.panels.addSticker s.fresh name glyph }

/-! ### Edits by the service -/

def needVideoReply : String := "Please upload a video first, then tell me what you'd like to change."

def editReadyReply : String := "Your edit is ready! The preview has been updated."

def chatOnlyReply : String := "Got it. Let me know what you'd like to change in the video."

def cancelledReply : String := "Stopped waiting for that edit. Send a new request whenever you're ready."

def timedOutReply : String :=
  "This edit is taking longer than expected. I've stopped waiting; check the job status later."

/-- The user requests an edit: answers with the job to send the request to. Without a job the assistant asks
    for a video instead. --/
def beginPrompt (s : Session) (text : String) : Except SessionError JobId × Session :=
  let text := Text.trim text
  if s.processing then (.error .busy, s)
  else if text.isEmpty then (.error .emptyMessage, s)
  else
    match s.job with
    | none => (.error .noJob, { s with chat := (s.chat.user text).assistant needVideoReply })
    | some job =>
      (.ok job.id,
        { s with chat := s.chat.user text, job := some { job with prompt := some text }, processing := true })

def promptFailed (s : Session) (e : JobError) : Session :=
  { s with
    processing := false
    chat := s.chat.assistant ("Sorry, I couldn't send that request: " ++ e.message) }

/-- The session works on a job. --/
def isCurrent (s : Session) (job : JobId) : Bool := s.job.any fun j => j.id == job

/-- An edit is over, and the assistant says so. --/
def finish (s : Session) (reply : String) : Session :=
  { s with
    processing := false
    job := s.job.map fun j => { j with reply := some reply }
    chat := s.chat.assistant reply }

/-- What follows happens only if the session still works on the job. --/
def ifCurrent (s : Session) (job : JobId) (next : Session) : Session := if s.isCurrent job then next else s

def observe (s : Session) (job : JobId) (report : StatusReport) : Session :=
  let seen := { s with job := s.job.map fun j => j.observe report }
  s.ifCurrent job
    (match report.duration with
    | some duration => seen.setVideoLength duration
    | none => seen)

/-- The preview plays the new video. --/
def editCompleted (s : Session) (job : JobId) (reply : Option String) (source : VideoSource) : Session :=
  s.ifCurrent job (finish { s with source := some source } (reply.getD editReadyReply))

def editAnswered (s : Session) (job : JobId) (reply : Option String) : Session :=
  s.ifCurrent job (s.finish (reply.getD chatOnlyReply))

def editFailed (s : Session) (job : JobId) (reason : String) : Session :=
  s.ifCurrent job (s.finish ("Sorry, the edit failed: " ++ reason))

/-- The edit is over, but its video could not be fetched or stored. --/
def renderUnavailable (s : Session) (job : JobId) (reply : Option String) (message : String) : Session :=
  s.ifCurrent job
    ((s.alert .export ("Could not load the edited video: " ++ message)).finish (reply.getD editReadyReply))

def editTimedOut (s : Session) (job : JobId) : Session := s.ifCurrent job (s.finish timedOutReply)

/-- The user waits no longer for the edit, if one was requested. --/
def editCancelled? (s : Session) : Option Session :=
  if s.processing then some (s.finish cancelledReply) else none

def exportFailed (s : Session) (message : String) : Session := s.alert .export message

/-- Takes in what a poll has learned. A new video is handed back to be stored. --/
def apply (s : Session) : JobEvent → Option PendingRender × Session
  | .status job report => (none, s.observe job report)
  | .completed job reply video => (if s.isCurrent job then some ⟨job, reply, video⟩ else none, s)
  | .chatOnly job reply => (none, s.editAnswered job reply)
  | .failed job reason => (none, s.editFailed job reason)
  | .pollError _ _ => (none, s)
  | .refreshFailed job reply message => (none, s.renderUnavailable job reply message)
  | .timedOut job _ => (none, s.editTimedOut job)

end Session
end Cutroom
