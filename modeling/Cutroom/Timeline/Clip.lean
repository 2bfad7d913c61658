import Cutroom.Identifier
import Cutroom.Timeline.Seconds

/-! Clips: pieces of media with a place on the timeline. The video lane and the audio lane hold clips of
    the same kind. -/

namespace Cutroom

/-- What the playback surface opens to play a clip: an address, a path or a name of its own. --/
structure MediaRef where
  text : String
deriving DecidableEq

/-- A piece of media that plays from `start` until `stop`. --/
structure Clip where
  id : Identifier
  name : String
  start : Seconds
  stop : Seconds
  source : Option MediaRef
deriving BEq

/-- A lane holds its clips in sequence order. --/
abbrev Lane := List Clip

/-- Why an edit of the timeline is refused. --/
inductive TimelineError where
  /-- A trim by an amount that is not positive and finite. -/
  | trimStep (step : Seconds)
  | clipNotFound (id : Identifier)
  | cutOutsideClip (clip : Identifier) (at_ start stop : Seconds)
  | trimAtMinimum (id : Identifier)
  | invalidSpan (start stop : Seconds)

namespace TimelineError

def message : TimelineError → String
  | trimStep step => "invalid operation: trim step " ++ step.text
  | clipNotFound id => "clip not found: " ++ id.text
  | cutOutsideClip clip at_ start stop =>
    "cut time " ++ Decimal.thousandths at_ ++ "s is outside clip " ++ clip.text ++ " [" ++
      Decimal.thousandths start ++ ", " ++ Decimal.thousandths stop ++ ")"
  | trimAtMinimum id => "clip " ++ id.text ++ " is already at its minimum length"
  | invalidSpan start stop => "invalid span [" ++ start.text ++ ", " ++ stop.text ++ "]"

end TimelineError

/-- A span that a clip can take: finite, not before the start of the timeline and not turned round. --/
def isSpan (start stop : Seconds) : Bool :=
  start.isFinite && stop.isFinite && !(start < 0.0) && !(stop < start)

namespace Clip

/-- A clip with a checked span, under the given fresh identifier. --/
def create (fresh : Identifier) (name : String) (start stop : Seconds) (source : Option MediaRef) :
    Except TimelineError Clip :=
  if isSpan start stop then .ok ⟨fresh, name, start, stop, source⟩ else .error (.invalidSpan start stop)

def length (c : Clip) : Seconds := c.stop - c.start

/-- A clip covers the times from its start up to its end, the end itself left out. --/
def covers (c : Clip) (t : Seconds) : Bool := c.start ≤ t && t < c.stop

/-- A clip that was placed before its length was known: it starts and ends at zero. --/
def isUnsized (c : Clip) : Bool := c.start == 0.0 && c.stop == 0.0

end Clip

/-- The furthest end over both lanes, zero when both are empty. --/
def contentEnd (clips audio : Lane) : Seconds :=
  ((clips ++ audio).map Clip.stop).foldl Seconds.later 0.0

end Cutroom
