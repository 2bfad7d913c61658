import Cutroom.Timeline.Clip

/-! Edits of a lane. Each takes a lane and returns the whole new lane, or the reason why nothing is done.
    An edit of one clip concerns the first clip with the given identifier. -/

namespace Cutroom

/-- How much one trim takes from the end of a clip. --/
def trimStep : Seconds := 1.0

/-- The shortest length that a trim leaves. --/
def minimumLength : Seconds := 0.1

/-- The length of media that is added from the media panel. --/
def addedLength : Seconds := 10.0

def mainName : String := "Main Video"

namespace Lane

/-- The first clip with an identifier. --/
def find (lane : Lane) (id : Identifier) : Except TimelineError Clip :=
  match List.find? (fun c => c.id == id) lane with
  | some c => .ok c
  | none => .error (.clipNotFound id)

/-- Puts the clips of `f c` in the place of the first clip `c` with an identifier. --/
def splice (id : Identifier) (f : Clip → Lane) : Lane → Lane
  | [] => []
  | c :: rest => if c.id == id then f c ++ rest else c :: splice id f rest

/-- The clip that an upload puts on the timeline; it is unsized while the length is not known. --/
def mainClip (fresh : Identifier) (duration : Option Seconds) (source : Option MediaRef) : Clip :=
  ⟨fresh, mainName, 0.0, (duration.filter Seconds.isLength).getD 0.0, source⟩

/-- The time lies strictly inside the clip. --/
def splits (c : Clip) (t : Seconds) : Bool := c.start < t && t < c.stop

/-- The part of a clip before a time. --/
def leftPart (t : Seconds) (c : Clip) : Clip := { c with stop := t }

/-- The part of a clip from a time on, as a clip of its own. --/
def rightPart (fresh : Identifier) (t : Seconds) (c : Clip) : Clip :=
  { c with id := fresh, name := c.name ++ " (Cut)", start := t }

/-- Splits a clip in two at a time strictly inside it. --/
def cut (lane : Lane) (id fresh : Identifier) (t : Seconds) : Except TimelineError Lane :=
  match lane.find id with
  | .error e => .error e
  | .ok c =>
    if splits c t then .ok (splice id (fun c => [leftPart t c, rightPart fresh t c]) lane)
    else .error (.cutOutsideClip id t c.start c.stop)

/-- The end of a clip after a trim: it keeps the minimum length. --/
def trimmedStop (c : Clip) (step : Seconds) : Seconds :=
  Seconds.later (c.stop - step) (c.start + minimumLength)

/-- Pulls the end of a clip in by a step; refused where the end would not come earlier. --/
def trim (lane : Lane) (id : Identifier) (step : Seconds) : Except TimelineError Lane :=
  if step.isLength then
    match lane.find id with
    | .error e => .error e
    | .ok c =>
      if c.stop ≤ trimmedStop c step then .error (.trimAtMinimum id)
      else .ok (splice id (fun c => [{ c with stop := trimmedStop c step }]) lane)
  else .error (.trimStep step)

def delete (lane : Lane) (id : Identifier) : Except TimelineError Lane :=
  match lane.find id with
  | .error e => .error e
  | .ok _ => .ok (splice id (fun _ => []) lane)

/-- The end of the last clip in sequence order, zero for an empty lane. --/
def lastStop (lane : Lane) : Seconds := (lane.getLast?.map Clip.stop).getD 0.0

/-- Adds media behind the last clip. --/
def append (lane : Lane) (fresh : Identifier) (name : String) (source : Option MediaRef) :
    Except TimelineError Lane :=
  (Clip.create fresh name lane.lastStop (lane.lastStop + addedLength) source).map fun c => lane ++ [c]

/-- Adds music over the whole length of the project. --/
def addMusic (lane : Lane) (fresh : Identifier) (name : String) (source : Option MediaRef)
    (duration : Seconds) : Except TimelineError Lane :=
  (Clip.create fresh name 0.0 duration source).map fun c => lane ++ [c]

/-- Gives the unsized clips of a lane a length that has become known. --/
def stretch (lane : Lane) (duration : Seconds) : Lane :=
  if duration.isLength then lane.map fun c => if c.isUnsized then { c with stop := duration } else c
  else lane

/-- There is a clip that `stretch` changes. --/
def stretches (lane : Lane) (duration : Seconds) : Bool := duration.isLength && lane.any Clip.isUnsized

end Lane
end Cutroom
