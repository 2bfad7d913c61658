import Cutroom.Decimal.Numeral

/-! Moments as they are written in the names of files: the day and the time of day in universal time, to the
    millisecond. A moment is given in milliseconds since the year 1970 began. -/

namespace Cutroom.Stamp

/-- The days in four hundred years, after which the calendar repeats. --/
def cycle : Nat := 146097

/-- The day of a year that begins in March. --/
structure YearDay where
  year : Nat
  day : Nat

/-- The year of a day counted from the first of March of the year zero. --/
def yearDay (n : Nat) : YearDay :=
  let d := n % cycle
  let y := (d - d / 1460 + d / 36524 - d / 146096) / 365
  ⟨400 * (n / cycle) + y, d - (365 * y + y / 4 - y / 100)⟩

/-- The date as year, month and day of the month. --/
def date (daysSince1970 : Nat) : Nat × Nat × Nat :=
  let y := yearDay (daysSince1970 + 719468)
  let month := (5 * y.day + 2) / 153
  let day := y.day - (153 * month + 2) / 5 + 1
  if month < 10 then (y.year, month + 3, day) else (y.year + 1, month - 9, day)

def chars (milliseconds : Nat) : List Char :=
  let seconds := milliseconds / 1000
  let (year, month, day) := date (seconds / 86400)
  Decimal.padded 4 year ++ Decimal.padded 2 month ++ Decimal.padded 2 day ++ '-' ::
    Decimal.padded 2 (seconds / 3600 % 24) ++ Decimal.padded 2 (seconds / 60 % 60) ++
    Decimal.padded 2 (seconds % 60) ++ Decimal.padded 3 (milliseconds % 1000)

def text (milliseconds : Nat) : String := String.ofList (chars milliseconds)

end Cutroom.Stamp
