import Cutroom.Decimal.Printed

/-! Times and lengths on the timeline are doubles, in seconds from its start. Comparisons with what is not
    a number fail, so each rule below says what such a value becomes. -/

namespace Cutroom

abbrev Seconds := Float

namespace Seconds

/-- The later of two times; one that is not a number gives way to the other. --/
def later (a b : Seconds) : Seconds :=
  if a.isNaN then b else if b.isNaN then a else if a < b then b else a

/-- The time in `[low, high]` nearest to `t`; what is not a number stays so. --/
def within (low high t : Seconds) : Seconds :=
  if t < low then low else if high < t then high else t

/-- A length that something can have: positive and finite. --/
def isLength (d : Seconds) : Bool := 0.0 < d && d.isFinite

/-- A finite length, and zero for a negative one and for one that is not finite. --/
def lengthOrZero (d : Seconds) : Seconds := if d.isFinite then later d 0.0 else 0.0

def text (t : Seconds) : String := Decimal.shortestText t

end Seconds
end Cutroom
