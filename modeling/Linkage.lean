import Linkage.Document.Settings
import Linkage.Document.Text
import Linkage.Number.Program
import Linkage.Proofs.Constraint.AddedError
import Linkage.Proofs.Constraint.AnchorView
import Linkage.Proofs.Constraint.DistanceRelative
import Linkage.Proofs.Constraint.DistanceWorld
import Linkage.Proofs.Constraint.Masking
import Linkage.Proofs.Constraint.RowSelection
import Linkage.Proofs.Constraint.SetJournal
import Linkage.Proofs.Constraint.Speed
import Linkage.Proofs.Constraint.Switching
import Linkage.Proofs.Constraint.Tolerance
import Linkage.Proofs.Constraint.ValueParts
import Linkage.Proofs.Geometry.AxisRotation
import Linkage.Proofs.Mechanism.AnyOrigin
import Linkage.Proofs.Mechanism.FixedJoint
import Linkage.Proofs.Mechanism.Locality
import Linkage.Proofs.Mechanism.LockedJoint
import Linkage.Proofs.Mechanism.RelativeJacobian
import Linkage.Proofs.Mechanism.RelativeVelocity
import Linkage.Proofs.Mechanism.RigidBody
import Linkage.Proofs.Number.LawfulScalar
import Linkage.Proofs.Number.RealDerivative
import Linkage.Proofs.Workspace.Attachment
import Linkage.Proofs.Workspace.Evaluation
import Linkage.Proofs.Workspace.Naming
import Linkage.Proofs.Workspace.Storage
