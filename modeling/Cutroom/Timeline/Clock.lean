import Cutroom.Timeline.Seconds

/-! Clock readouts in whole seconds, and the labelled marks of the ruler. -/

namespace Cutroom

inductive ClockFormat where
  /-- Minutes and seconds. -/
  | short
  /-- Hours, minutes and seconds. -/
  | detail
  /-- Seconds alone below a minute, minutes and seconds above. -/
  | ruler
deriving DecidableEq

structure Clock where
  hours : Nat
  minutes : Nat
  seconds : Nat
deriving DecidableEq

/-- The whole seconds of a time, at most what a 64-bit word holds; zero for a time that is not finite and
    positive. --/
def wholeSeconds (t : Seconds) : Nat := if t.isFinite && 0.0 < t then t.toUInt64.toNat else 0

namespace Clock

def ofWhole (total : Nat) : Clock := ⟨total / 3600, total % 3600 / 60, total % 60⟩

def ofSeconds (t : Seconds) : Clock := ofWhole (wholeSeconds t)

def totalMinutes (c : Clock) : Nat := c.hours * 60 + c.minutes

def chars (c : Clock) : ClockFormat → List Char
  | .short => Decimal.padded 2 c.totalMinutes ++ ':' :: Decimal.padded 2 c.seconds
  | .detail =>
    Decimal.padded 2 c.hours ++ ':' :: Decimal.padded 2 c.minutes ++ ':' :: Decimal.padded 2 c.seconds
  | .ruler =>
    if 0 < c.totalMinutes then Decimal.numeral c.totalMinutes ++ ':' :: Decimal.padded 2 c.seconds
    else Decimal.numeral c.seconds ++ ['s']

def text (c : Clock) (format : ClockFormat) : String := String.ofList (c.chars format)

end Clock

/-- A time as the toolbar shows the total length. --/
def detailText (t : Seconds) : String := (Clock.ofSeconds t).text .detail

/-- A labelled mark at a share of the ruler. --/
structure RulerMark where
  time : Seconds
  position : Float
  label : String

/-- Eleven evenly spaced marks from the start to the end. --/
def rulerMarks (duration : Seconds) : List RulerMark :=
  (List.range 11).map fun i =>
    let position := Float.ofNat i / 10.0
    let time := duration.lengthOrZero * position
    ⟨time, position, (Clock.ofSeconds time).text .ruler⟩

end Cutroom
