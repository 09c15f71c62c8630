/-!
# Moments

A `Moment` is a point in time as a calendar and a clock show it: `Moment.clock` stamps log lines,
`Moment.logFile` names a log file that was given no name.
-/

namespace Quadrature

/-- A point in time. -/
structure Moment where
  year : Nat
  month : Nat
  day : Nat
  hour : Nat
  minute : Nat
  second : Nat
deriving DecidableEq

namespace Moment

/-- The beginning of the year 2000. -/
def epoch : Moment := ⟨2000, 1, 1, 0, 0, 0⟩

/-- A number with at least two digits. -/
def twoDigits (n : Nat) : String := (if n < 10 then "0" else "") ++ toString n

/-- The time of day. -/
def clock (t : Moment) : String :=
  ":".intercalate [twoDigits t.hour, twoDigits t.minute, twoDigits t.second]

/-- The name of a log file that is begun at this moment. -/
def logFile (t : Moment) : String :=
  "log_" ++ "-".intercalate [toString t.year, twoDigits t.month, twoDigits t.day] ++
    "_" ++ "-".intercalate [twoDigits t.hour, twoDigits t.minute, twoDigits t.second] ++ ".txt"

end Moment

end Quadrature
