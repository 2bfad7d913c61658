import Cutroom.Timeline.Track

/-! The playhead: the current time, and whether the pointer drags it.

    Every operation that moves the playhead answers with the time that playback has to seek to. While the
    pointer drags, the times that playback reports and clicks on the track are dropped, so that they do
    not pull the playhead away. -/

namespace Cutroom

inductive Drag where
  | idle
  | dragging
deriving DecidableEq

structure Playhead where
  time : Seconds
  duration : Seconds
  drag : Drag

/-- Why a stored playhead is refused. --/
inductive PlayheadError where
  | duration (d : Seconds)
  | time (t d : Seconds)

def PlayheadError.message : PlayheadError → String
  | duration d => "invalid playhead duration " ++ d.text
  | time t d => "playhead time " ++ t.text ++ " outside [0, " ++ d.text ++ "]"

namespace Playhead

/-- A playhead at the start of a project; a length below zero, or none at all, counts as zero. --/
def start (duration : Seconds) : Playhead := ⟨0.0, Seconds.later duration 0.0, .idle⟩

def atRest : Playhead := ⟨0.0, 0.0, .idle⟩

/-- A stored playhead, whose time has to lie within its finite length. --/
def restore (time duration : Seconds) (drag : Drag) : Except PlayheadError Playhead :=
  if !duration.isFinite || duration < 0.0 then .error (.duration duration)
  else if !time.isFinite || !(0.0 ≤ time && time ≤ duration) then .error (.time time duration)
  else .ok ⟨time, duration, drag⟩

def isDragging (p : Playhead) : Bool := p.drag == .dragging

/-- Takes a new length; a playhead behind the end goes back to it. --/
def setDuration (p : Playhead) (duration : Seconds) : Playhead :=
  let d := duration.lengthOrZero
  { p with duration := d, time := if d < p.time then d else p.time }

/-- The pointer is pressed on the handle; refused while a drag runs. --/
def beginDrag? (p : Playhead) : Option Playhead :=
  if p.isDragging then none else some { p with drag := .dragging }

/-- The pointer is released, wherever it is. --/
def endDrag (p : Playhead) : Playhead := { p with drag := .idle }

/-- The playhead under the pointer. --/
def moveTo (p : Playhead) (x : Float) (track : Track) : Playhead :=
  { p with time := track.timeAt x p.duration }

/-- The pointer moves; this matters only while it drags. --/
def dragTo? (p : Playhead) (x : Float) (track : Track) : Option Playhead :=
  if p.isDragging then some (p.moveTo x track) else none

/-- A click on the track; the one that ends a drag is ignored. --/
def clickTrack? (p : Playhead) (x : Float) (track : Track) : Option Playhead :=
  if p.isDragging then none else some (p.moveTo x track)

/-- A click on the ruler always seeks. --/
def clickRuler (p : Playhead) (x : Float) (track : Track) : Playhead := p.moveTo x track

/-- Seeks to a time, held within the project. --/
def seek (p : Playhead) (t : Seconds) : Playhead :=
  { p with time := if t.isFinite then Seconds.within 0.0 p.duration t else 0.0 }

/-- A time that playback reports, dropped while it stands still or the pointer drags. --/
def tick? (p : Playhead) (t : Seconds) (playing : Bool) : Option Playhead :=
  if !playing || p.isDragging || !t.isFinite then none
  else some { p with time := Seconds.within 0.0 p.duration t }

end Playhead
end Cutroom
