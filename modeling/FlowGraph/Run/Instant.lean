/-!
# Instants as text

An instant is counted in seconds from the start of 1970 and written as a date and a time
of day without offset. Years are counted from March, so that the leap day comes last.
-/

namespace FlowGraph

/-- A date of the calendar. -/
structure Date where
  year : Nat
  month : Nat
  day : Nat
  deriving DecidableEq, Repr

namespace Date

/-- The days from March 1 of the year 0 to the start of 1970. -/
def daysBefore1970 : Nat := 719468

/-- The days of four hundred years. -/
def daysOfCycle : Nat := 146097

/-- The date so many days after the start of 1970. -/
def ofDays (days : Nat) : Date :=
  let fromMarch := days + daysBefore1970
  let cycle := fromMarch / daysOfCycle
  let inCycle := fromMarch % daysOfCycle
  let year := (inCycle - inCycle / 1460 + inCycle / 36524 - inCycle / 146096) / 365
  let inYear := inCycle - (365 * year + year / 4 - year / 100)
  let month := (5 * inYear + 2) / 153
  let day := inYear - (153 * month + 2) / 5 + 1
  { year := cycle * 400 + year + (if month < 10 then 0 else 1)
    month := if month < 10 then month + 3 else month - 9
    day }

end Date

namespace Instant

/-- A number with zeros in front, in so many places. -/
def padded (places n : Nat) : String :=
  let ds := Nat.toDigits 10 n
  String.ofList (List.replicate (places - ds.length) '0' ++ ds)

/-- The text of an instant. -/
def text (seconds : Nat) : String :=
  let d := Date.ofDays (seconds / 86400)
  let s := seconds % 86400
  padded 4 d.year ++ "-" ++ padded 2 d.month ++ "-" ++ padded 2 d.day ++ "T" ++
    padded 2 (s / 3600) ++ ":" ++ padded 2 (s / 60 % 60) ++ ":" ++ padded 2 (s % 60) ++ "Z"

example : text 0 = "1970-01-01T00:00:00Z" := by decide +kernel

example : text 951782400 = "2000-02-29T00:00:00Z" := by decide +kernel

end Instant

end FlowGraph
