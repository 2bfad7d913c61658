import Cutroom.Timeline.Playhead

/-! What the user and playback do to the playhead. A gesture that does not matter in the present state,
    such as a move of the pointer while nothing is dragged, is ignored. -/

namespace Cutroom

inductive Gesture where
  /-- The pointer is pressed on the handle. -/
  | press
  /-- The pointer moves to `x`. -/
  | move (x : Float) (track : Track)
  /-- The pointer is released. -/
  | release
  | clickTrack (x : Float) (track : Track)
  | clickRuler (x : Float) (track : Track)
  | seek (t : Seconds)
  /-- Playback reports its time. -/
  | tick (t : Seconds) (playing : Bool)

/-- The gesture asks playback to seek, where it is not ignored. --/
def Gesture.seeks : Gesture → Bool
  | move _ _ | clickTrack _ _ | clickRuler _ _ | seek _ => true
  | press | release | tick _ _ => false

namespace Playhead

/-- The playhead after a gesture, none where the gesture is ignored. --/
def gesture? (p : Playhead) : Gesture → Option Playhead
  | .press => p.beginDrag?
  | .move x track => p.dragTo? x track
  | .release => some p.endDrag
  | .clickTrack x track => p.clickTrack? x track
  | .clickRuler x track => some (p.clickRuler x track)
  | .seek t => some (p.seek t)
  | .tick t playing => p.tick? t playing

/-- The playhead after a gesture, as it was where the gesture is ignored. --/
def after (p : Playhead) (g : Gesture) : Playhead := (p.gesture? g).getD p

/-- The time that playback has to seek to. --/
def seekTime? (p : Playhead) (g : Gesture) : Option Seconds :=
  if g.seeks then (p.gesture? g).map Playhead.time else none

end Playhead
end Cutroom
