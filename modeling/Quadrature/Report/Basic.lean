import Quadrature.Duration
import Quadrature.Integral.Sums
import Quadrature.Rejection
import Quadrature.Report.Table

/-!
# Reports

The report of an integration names the integral and shows its three sums, how far apart they are,
and the time that each of them took.
-/

namespace Quadrature

/-- What is reported of one integration. -/
structure Report where
  integrand : String
  start : Float
  stop : Float
  refinement : Nat
  sums : Sums Float
  /-- The times of the Riemann sum and of the lower and upper Darboux sums in milliseconds. -/
  times : List Float

namespace Report

/-- A value with six places. -/
def amount (x : Float) : String := Decimal.fixed 6 x

/-- A time with three places. -/
def time (ms : Float) : String := Decimal.fixed 3 ms

/-- The names and values of the sums and of their distances. -/
def quantities (s : Sums Float) : List (String × Float) :=
  [("Riemann-sum", s.riemann), ("Lower Darboux-sum", s.lower), ("Upper Darboux-sum", s.upper),
    ("Difference between Darboux-sums", s.difference),
    ("Average of the Darboux-sums", s.average),
    ("Difference between Riemann-sum and average of the Darboux-sums", s.deviation)]

/-- The rows of the report; the distances have no time. -/
def rows (r : Report) : Table.Rows :=
  let qs := quantities r.sums
  let times := r.times.map time ++ List.replicate (qs.length - r.times.length) ""
  (qs.zip times).map fun (q, t) => [q.1, amount q.2, t]

/-- The heads of the columns. -/
def heads : List String := ["quantity", "value", "time, ms"]

/-- The text of the report. -/
def text (r : Report) : String :=
  "∫" ++ intervalText r.start r.stop ++ " " ++ r.integrand ++ " dx, refinement " ++
    toString r.refinement ++ "\n" ++ Table.text (heads :: r.rows)

end Report

end Quadrature
