import Cutroom.Desk.Session
import Cutroom.Timeline.Gesture

/-! Everything that can happen to a session, as one type, and the answer to each action. -/

namespace Cutroom

inductive Action where
  | gesture (g : Gesture)
  | zoomIn
  | zoomOut
  | uploaded (receipt : Receipt) (source : VideoSource)
  | uploadFailed (e : JobError)
  | setVideoLength (duration : Seconds)
  | select (clip : Option Identifier)
  | cut
  | trim
  | delete
  | addMedia (name : String) (source : Option MediaRef)
  | addMusic (name : String) (source : Option MediaRef)
  | undo
  | redo
  | applyEffect (name : String)
  | applyTransition (name : String)
  | applyFilter (id : String)
  | applyPreset (name : String)
  | adjust (key : Adjustment) (value : Int)
  | addText (style : TextStyle)
  | addSticker (name glyph : String)
  | beginPrompt (text : String)
  | promptFailed (e : JobError)
  | observe (job : JobId) (report : StatusReport)
  | editCompleted (job : JobId) (reply : Option String) (source : VideoSource)
  | editAnswered (job : JobId) (reply : Option String)
  | editFailed (job : JobId) (reason : String)
  | renderUnavailable (job : JobId) (reply : Option String) (message : String)
  | editTimedOut (job : JobId)
  | editCancelled
  | exportFailed (message : String)
  | event (e : JobEvent)
  | takeAlerts
  | say (role : Role) (text : String)

/-- What an action answers with. --/
inductive Answer where
  | done
  | flag (b : Bool)
  | seek (t : Option Seconds)
  | percent (n : Nat)
  | identifier (id : Identifier)
  | value (n : Int)
  | job (id : JobId)
  | render (r : Option PendingRender)
  | alerts (list : List Alert)
  | message (id : Nat)

namespace Session

/-- The session after an edit, as it was where the edit is refused. --/
def edited (s : Session) (answer : Session → Answer) :
    Except SessionError Session → Except SessionError Answer × Session
  | .ok next => (.ok (answer next), next)
  | .error e => (.error e, s)

/-- The session after a step that is not always there. --/
def tried (s : Session) : Option Session → Except SessionError Answer × Session
  | some next => (.ok (.flag true), next)
  | none => (.ok (.flag false), s)

def told (next : Session) : Except SessionError Answer × Session := (.ok .done, next)

def gestured (s : Session) (g : Gesture) : Except SessionError Answer × Session :=
  let answer := match g with
    | .press | .tick _ _ => .flag (s.playhead.gesture? g).isSome
    | .release => .done
    | g => .seek (s.playhead.seekTime? g)
  (.ok answer, { s with playhead := s.playhead.after g })

/-- What an action does, and what it answers. --/
def act (s : Session) : Action → Except SessionError Answer × Session
  | .gesture g => s.gestured g
  | .zoomIn => (.ok (.percent s.zoom.closer.percent), { s with zoom := s.zoom.closer })
  | .zoomOut => (.ok (.percent s.zoom.wider.percent), { s with zoom := s.zoom.wider })
  | .uploaded receipt source => told (s.uploaded receipt source)
  | .uploadFailed e => told (s.uploadFailed e)
  | .setVideoLength duration => (.ok (.flag (s.clips.stretches duration)), s.setVideoLength duration)
  | .select clip => s.edited (fun _ => .done) (s.select clip)
  | .cut => s.edited (fun _ => .done) s.cut
  | .trim => s.edited (fun _ => .done) s.trim
  | .delete => s.edited (fun _ => .done) s.delete
  | .addMedia name source => s.edited (fun _ => .identifier s.fresh) (s.addMedia name source)
  | .addMusic name source => s.edited (fun _ => .identifier s.fresh) (s.addMusic name source)
  | .undo => s.tried s.undo?
  | .redo => s.tried s.redo?
  | .applyEffect name => s.edited (fun _ => .done) (s.applyEffect name)
  | .applyTransition name => s.edited (fun _ => .done) (s.applyTransition name)
  | .applyFilter id => s.edited (fun _ => .done) (s.applyFilter id)
  | .applyPreset name => s.edited (fun _ => .done) (s.applyPreset name)
  | .adjust key value => (.ok (.value (key.nearest value)), s.adjust key value)
  | .addText style => told (s.addText style)
  | .addSticker name glyph => told (s.addSticker name glyph)
  | .beginPrompt text =>
    match s.beginPrompt text with
    | (.ok job, next) => (.ok (.job job), next)
    | (.error e, next) => (.error e, next)
  | .promptFailed e => told (s.promptFailed e)
  | .observe job report => told (s.observe job report)
  | .editCompleted job reply source => told (s.editCompleted job reply source)
  | .editAnswered job reply => told (s.editAnswered job reply)
  | .editFailed job reason => told (s.editFailed job reason)
  | .renderUnavailable job reply message => told (s.renderUnavailable job reply message)
  | .editTimedOut job => told (s.editTimedOut job)
  | .editCancelled => s.tried s.editCancelled?
  | .exportFailed message => told (s.exportFailed message)
  | .event e => let (render, next) := s.apply e; (.ok (.render render), next)
  | .takeAlerts => (.ok (.alerts s.alerts), { s with alerts := [] })
  | .say role text => (.ok (.message s.chat.nextId), { s with chat := s.chat.push role text })

/-- The session after a row of actions. --/
def run (s : Session) (actions : List Action) : Session := actions.foldl (fun s a => (s.act a).2) s

end Session
end Cutroom
