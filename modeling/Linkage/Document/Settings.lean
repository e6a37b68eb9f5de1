import Linkage.Constraint.Check
import Linkage.Document.Basic
import Linkage.Number.Dual

namespace Linkage

/-!
# Stored settings, masks and reports
-/

variable {K : Type}

namespace Dual

/-- Stored form of a dual number. -/
def toDocument
    [Zero K] [Sub K] [BEq K]
    (number : Dual K) : Document K :=
  .record [("re", .ofReal number.re), ("eps", .ofReal number.eps)]

/-- Read a dual number. -/
def ofDocument?
    [NatCast K]
    (document : Document K) : Option (Dual K) :=
  match document.fields? ["re", "eps"] with
  | some [re, eps] => do
      let re ← Document.required? Document.real? re
      let eps ← Document.required? Document.real? eps
      return ⟨re, eps⟩
  | _ => none

end Dual

namespace CheckSettings

/-- Stored form of check settings. -/
def toDocument
    [Zero K] [Sub K] [BEq K]
    (settings : CheckSettings K) : Document K :=
  .record
    [("step", .ofReal settings.step),
      ("tolerance", .ofReal settings.tolerance)]

/-- Read check settings; they are not validated. -/
def ofDocument?
    [NatCast K]
    (document : Document K) : Option (CheckSettings K) :=
  match document.fields? ["step", "tolerance"] with
  | some [step, tolerance] => do
      let step ← Document.required? Document.real? step
      let tolerance ← Document.required? Document.real? tolerance
      return ⟨step, tolerance⟩
  | _ => none

end CheckSettings

namespace CheckReport

/-- Stored form of a check report. -/
def toDocument
    [Zero K] [Sub K] [BEq K]
    (report : CheckReport K) : Document K :=
  .record
    [("jacobian_error", .ofReal report.jacobianError),
      ("bias_error", .ofReal report.biasError),
      ("tolerance", .ofReal report.tolerance)]

/-- Read a check report. -/
def ofDocument?
    [NatCast K]
    (document : Document K) : Option (CheckReport K) :=
  match document.fields? ["jacobian_error", "bias_error", "tolerance"] with
  | some [jacobianError, biasError, tolerance] => do
      let jacobianError ←
        Document.required? Document.real? jacobianError
      let biasError ← Document.required? Document.real? biasError
      let tolerance ← Document.required? Document.real? tolerance
      return { jacobianError, biasError, tolerance }
  | _ => none

end CheckReport

namespace RowMask

/-- Stored form of a row mask. -/
def toDocument
    (mask : RowMask) : Document K :=
  .record
    [("length", .natural mask.length),
      ("indices", .list (mask.indices.map .natural))]

/-- Read a row mask; its indices are not validated. -/
def ofDocument?
    (document : Document K) : Option RowMask :=
  match document.fields? ["length", "indices"] with
  | some [length, indices] => do
      let length ← Document.required? Document.natural? length
      let indices ←
        Document.required? (Document.list? Document.natural?) indices
      return ⟨length, indices⟩
  | _ => none

end RowMask

end Linkage
