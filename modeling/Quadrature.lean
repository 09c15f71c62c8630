import Quadrature.Main
import Quadrature.Proofs.Expr.Infix
import Quadrature.Proofs.Integral.Constant
import Quadrature.Proofs.Integral.Duality
import Quadrature.Proofs.Integral.Finer
import Quadrature.Proofs.Integral.Reversal
import Quadrature.Proofs.Interval.Typed
import Quadrature.Proofs.Rpn.Reparse
import Quadrature.Proofs.Rpn.Values
import Quadrature.Proofs.Rpn.Faults
import Quadrature.Proofs.Rpn.Unbounded
import Quadrature.Proofs.Settings.Capacity
import Quadrature.Proofs.Session.Appended
import Quadrature.Proofs.Session.Checked
import Quadrature.Proofs.Session.Readers
import Quadrature.Proofs.Session.Room
import Quadrature.Proofs.Session.Sums
import Quadrature.Proofs.Session.Saved
import Quadrature.Proofs.Session.Reintegrated
