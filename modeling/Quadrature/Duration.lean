import Quadrature.Decimal.Layout
import Quadrature.Log
import Quadrature.Report.Table

/-!
# Durations

A duration is shown in the unit that suits it: milliseconds below a second, seconds below a minute,
minutes below an hour, and hours.

* `Duration.ofParts`: a duration from seconds and nanoseconds that may make further seconds.
* `Duration.scaled`: the unit and the number of units.
* `Timings`: what the three sums of an integration took.
* `Timings.lines`: what is logged about them.
-/

namespace Quadrature

/-- A span of time, in whole seconds and the nanoseconds after them. -/
structure Duration where
  seconds : Nat
  nanoseconds : Nat
deriving DecidableEq

/-- More seconds than a duration can have. -/
structure DurationOverflow where
  seconds : Nat
deriving DecidableEq

/-- The text of the failure. -/
def DurationOverflow.message (_ : DurationOverflow) : String := "overflow in Duration::new"

namespace Duration

/-- The seconds of a duration are a number of 64 bits. -/
def maxSeconds : Nat := 18446744073709551615

/-- The duration of some seconds and nanoseconds, of which every 1000000000 are one more second. -/
def ofParts (seconds nanoseconds : Nat) : Except DurationOverflow Duration :=
  let total := seconds + nanoseconds / 1000000000
  if total ≤ maxSeconds then .ok ⟨total, nanoseconds % 1000000000⟩ else .error ⟨total⟩

/-- No time. -/
def zero : Duration := ⟨0, 0⟩

/-- A number of nanoseconds. -/
def ofNanoseconds (n : Nat) : Duration := ⟨n / 1000000000, n % 1000000000⟩

/-- The number of seconds. -/
def inSeconds (d : Duration) : Float :=
  Float.ofNat d.seconds + Float.ofNat d.nanoseconds / 1e9

/-- The number of milliseconds. -/
def inMilliseconds (d : Duration) : Float := d.inSeconds * 1000.0

/-- The number of whole milliseconds. -/
def wholeMilliseconds (d : Duration) : Nat := d.seconds * 1000 + d.nanoseconds / 1000000

/-- The number of nanoseconds. -/
def inNanoseconds (d : Duration) : Nat := d.seconds * 1000000000 + d.nanoseconds

/-- The time between two readings of a clock. -/
def between (start stop : Duration) : Duration :=
  ofNanoseconds (stop.inNanoseconds - start.inNanoseconds)

/-- The unit that suits a duration, with a blank before it, and the number of these units. -/
def scaled (d : Duration) : String × Float :=
  let ms := d.wholeMilliseconds
  if ms < 1000 then (" ms", d.inMilliseconds)
  else if ms < 60000 then (" s", d.inSeconds)
  else if ms < 3600000 then (" min", d.inSeconds / 60.0)
  else (" h", d.inSeconds / 3600.0)

/-- The number of whole units of the same kind. -/
def wholeUnits (d : Duration) : Nat :=
  let ms := d.wholeMilliseconds
  if ms < 1000 then ms
  else if ms < 60000 then d.seconds
  else if ms < 3600000 then d.seconds / 60
  else d.seconds / 3600

/-- The log line of a duration that is shown. -/
def line (d : Duration) : Log.Line :=
  Log.info ("Elapsed " ++ toString d.wholeUnits ++ d.scaled.1)

/-- How many percent of a whole a duration is, with three places at most. -/
def share (whole d : Duration) : Float :=
  let percent := 100.0 * Float.ofNat d.inNanoseconds / Float.ofNat (max whole.inNanoseconds 1)
  (percent * 1000.0).round / 1000.0

end Duration

/-- What the three sums of an integration took. -/
structure Timings where
  riemann : Duration
  lower : Duration
  upper : Duration

namespace Timings

/-- Nothing was measured. -/
def zero : Timings := ⟨.zero, .zero, .zero⟩

/-- The durations by the names of the sums. -/
def named (t : Timings) : List (String × Duration) :=
  [("Riemann sum", t.riemann), ("Lower Darboux sum", t.lower), ("Upper Darboux sum", t.upper)]

/-- The three durations in milliseconds. -/
def inMilliseconds (t : Timings) : List Float := t.named.map fun (_, d) => d.inMilliseconds

/-- For each sum its label, which names the unit, and the number of units with three places. -/
def rows (t : Timings) : List (String × String) :=
  t.named.map fun (name, d) =>
    let (unit, amount) := d.scaled
    (name ++ " (%," ++ unit ++ ")", Decimal.fixed 3 amount)

/-- The table of a whole integration: its duration, and the share and the duration of each sum. The
order of the rows has no meaning. -/
def table (whole : Duration) (t : Timings) : Table.Rows :=
  let (unit, amount) := whole.scaled
  let shares := t.named.map fun (_, d) => Decimal.Layout.plain.text (whole.share d)
  ["time elapsed," ++ unit, Decimal.fixed 3 amount] ::
    t.rows.zipWith (fun (label, amount) share => [label, share ++ ", " ++ amount]) shares

/-- What is logged about a whole integration: a line for each duration and the table. -/
def lines (whole : Duration) (t : Timings) : List Log.Line :=
  whole.line :: t.named.map (fun (_, d) => d.line) ++
    [Log.info ("\n \n TIMER DATA \n \n " ++ Table.text (t.table whole))]

end Timings

end Quadrature
