import Cutroom.Timeline.Seconds

/-! The timeline as it is drawn: where its track lies under the pointer, and how far it is zoomed. -/

namespace Cutroom

/-- The placement of the track in pointer coordinates: its left edge, its full width, and how far its
    container is scrolled. --/
structure Track where
  left : Float
  width : Float
  scroll : Float

namespace Track

def unscrolled (left width : Float) : Track := ⟨left, width, 0.0⟩

/-- The share of the track left of the pointer, from zero to one. --/
def fractionAt (track : Track) (x : Float) : Float :=
  if !(0.0 < track.width) || !x.isFinite then 0.0
  else Seconds.within 0.0 1.0 ((x - track.left + track.scroll) / track.width)

/-- The time under the pointer, zero where the project has no length. --/
def timeAt (track : Track) (x : Float) (duration : Seconds) : Seconds :=
  if duration.isLength then track.fractionAt x * duration else 0.0

end Track

/-- The share of the project before a time, from zero to one. --/
def fractionOf (time duration : Seconds) : Float :=
  if duration.isLength && time.isFinite then Seconds.within 0.0 1.0 (time / duration) else 0.0

/-- Where a time lies in pointer coordinates. --/
def Track.xAt (track : Track) (time duration : Seconds) : Float :=
  track.left - track.scroll + fractionOf time duration * track.width

/-- The width of the track in percent of the width that fits, in steps of 25 from 50 to 200. --/
structure Zoom where
  percent : Nat
  least : 50 ≤ percent
  most : percent ≤ 200
deriving DecidableEq

namespace Zoom

/-- A zoom of the given percentage, if it lies within bounds. --/
def ofPercent? (percent : Nat) : Option Zoom :=
  if h : 50 ≤ percent ∧ percent ≤ 200 then some ⟨percent, h.1, h.2⟩ else none

/-- What is said about a percentage out of bounds. --/
def outsideMessage (percent : Nat) : String :=
  String.ofList (['z', 'o', 'o', 'm', ' '] ++ Decimal.numeral percent) ++ "% outside 50..=200"

def standard : Zoom := ⟨100, by decide, by decide⟩

def closer (z : Zoom) : Zoom where
  percent := min (z.percent + 25) 200
  least := by have := z.least; omega
  most := by omega

def wider (z : Zoom) : Zoom where
  percent := max (z.percent - 25) 50
  least := by omega
  most := by have := z.most; omega

/-- The width of the track where `fitted` is the width that fits. --/
def trackWidth (z : Zoom) (fitted : Float) : Float := fitted * Float.ofNat z.percent / 100.0

end Zoom
end Cutroom
