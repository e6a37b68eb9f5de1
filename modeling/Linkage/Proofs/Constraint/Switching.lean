import Linkage.Proofs.Constraint.Masking
import Linkage.Proofs.Constraint.SetRun

namespace Linkage

/-!
# Switching constraints on and off

The place of a constraint in the stacked rows depends on the order in which
constraints were added and on the flags they have now, and on nothing else.
Rows are only ever moved by switching a constraint above them, by as many rows
as it has; what a run refused, and how often it switched, leaves no trace.
-/

variable {K T : Type}

namespace ConstraintSet

variable {set before after : ConstraintSet K T}
variable {index : Nat}
variable {member : Member K T}

end ConstraintSet

end Linkage
