import Linkage.Geometry.Linear
import Linkage.Proofs.Number.ScalarMap

namespace Linkage

/-!
# Changing the scalars of vectors and matrices

Products and sums of vectors and matrices are made of the operations of their
scalars, so a map that keeps the operations may be applied to the entries of
the factors or to the entries of the result.
-/

variable {S T : Type}

@[simp] theorem Vec3.map_constant
    {K : Type} [Constant K S] [Constant K T]
    (f : S → T) [PreservesConstants K f]
    (v : Vec3 K) :
    (v.map Constant.constant : Vec3 S).map f =
      v.map Constant.constant := by
  simp only [Vec3.map, PreservesConstants.map_constant]

@[simp] theorem Mat3.map_constant
    {K : Type} [Constant K S] [Constant K T]
    (f : S → T) [PreservesConstants K f]
    (m : Mat3 K) :
    (m.map Constant.constant : Mat3 S).map f =
      m.map Constant.constant := by
  simp only [Mat3.map, Vec3.map_constant]

@[simp] theorem Vec3.constant_self (v : Vec3 T) :
    (v.map Constant.constant : Vec3 T) = v := rfl

@[simp] theorem Mat3.constant_self (m : Mat3 T) :
    (m.map Constant.constant : Mat3 T) = m := rfl

@[simp] theorem Mat3.map_transpose
    (f : S → T)
    (m : Mat3 S) :
    m.transpose.map f = (m.map f).transpose := rfl

theorem Columns.map_toRows
    (f : S → T)
    (columns : Columns S) :
    columns.toRows.map (List.map f) =
      Columns.toRows (columns.map (Vec3.map f)) := by
  simp [Columns.toRows, Vec3.map, Function.comp_def]

section Arithmetic

variable [Zero S] [One S] [Add S] [Sub S] [Neg S] [Mul S]
variable [Zero T] [One T] [Add T] [Sub T] [Neg T] [Mul T]
variable (f : S → T) [PreservesArithmetic f]

namespace Vec3

@[simp] theorem map_zero : (0 : Vec3 S).map f = 0 := by
  ext <;> exact PreservesArithmetic.map_zero

@[simp] theorem map_add (v w : Vec3 S) :
    (v + w).map f = v.map f + w.map f := by
  ext <;> exact PreservesArithmetic.map_add _ _

@[simp] theorem map_sub (v w : Vec3 S) :
    (v - w).map f = v.map f - w.map f := by
  ext <;> exact PreservesArithmetic.map_sub _ _

@[simp] theorem map_scale
    (v : Vec3 S)
    (factor : S) :
    (v.scale factor).map f = (v.map f).scale (f factor) := by
  ext <;> exact PreservesArithmetic.map_mul _ _

@[simp] theorem map_cross (v w : Vec3 S) :
    (v.cross w).map f = (v.map f).cross (w.map f) := by
  simp only [Vec3.map, Vec3.cross, PreservesArithmetic.map_sub,
    PreservesArithmetic.map_mul]

/-- The value of a scalar product is that of the values. -/
theorem apply_dot (v w : Vec3 S) :
    f (v.dot w) = (v.map f).dot (w.map f) := by
  simp only [Vec3.map, Vec3.dot, PreservesArithmetic.map_add,
    PreservesArithmetic.map_mul]

/-- The value of a product of a row and a column is that of the values. -/
theorem apply_rowTimes (v w : Vec3 S) :
    f (v.rowTimes w) = (v.map f).rowTimes (w.map f) := by
  simp only [Vec3.map, Vec3.rowTimes, PreservesArithmetic.map_add,
    PreservesArithmetic.map_mul, PreservesArithmetic.map_one]

/-- The value of a length is the length of the values. -/
theorem apply_norm
    [Elementary S] [Elementary T] [PreservesSqrt f]
    (v : Vec3 S) :
    f v.norm = (v.map f).norm := by
  rw [norm, PreservesSqrt.map_sqrt (f := f), normSquared, apply_dot f]
  rfl

end Vec3

namespace Mat3

@[simp] theorem map_identity :
    (identity : Mat3 S).map f = identity := by
  simp only [identity, Mat3.map, Vec3.map, PreservesArithmetic.map_zero,
    PreservesArithmetic.map_one]

@[simp] theorem map_add (m n : Mat3 S) :
    (m + n).map f = m.map f + n.map f := by
  ext <;> exact PreservesArithmetic.map_add _ _

@[simp] theorem map_scale
    (m : Mat3 S)
    (factor : S) :
    (m.scale factor).map f = (m.map f).scale (f factor) := by
  simp only [Mat3.map, Mat3.scale, Vec3.map_scale]

@[simp] theorem map_skew (v : Vec3 S) :
    (skew v).map f = skew (v.map f) := by
  simp only [Mat3.map, skew, Vec3.map, PreservesArithmetic.map_zero,
    PreservesArithmetic.map_neg]

@[simp] theorem map_outer (v w : Vec3 S) :
    (outer v w).map f = outer (v.map f) (w.map f) := by
  simp only [Mat3.map, outer, Vec3.map, PreservesArithmetic.map_mul,
    PreservesArithmetic.map_one]

@[simp] theorem map_apply
    (m : Mat3 S)
    (v : Vec3 S) :
    (m.apply v).map f = (m.map f).apply (v.map f) := by
  ext <;> exact Vec3.apply_rowTimes f _ _

@[simp] theorem map_times (m n : Mat3 S) :
    (m.times n).map f = (m.map f).times (n.map f) := by
  ext <;> exact Vec3.apply_rowTimes f _ _

@[simp] theorem map_axisAngle
    [Elementary S] [Elementary T] [PreservesTrigonometry f]
    (axis : Vec3 S)
    (angle : S) :
    (axisAngle axis angle).map f = axisAngle (axis.map f) (f angle) := by
  simp only [axisAngle, map_add, map_scale, map_identity, map_skew,
    map_outer, PreservesArithmetic.map_sub, PreservesArithmetic.map_one,
    PreservesTrigonometry.map_sin, PreservesTrigonometry.map_cos]

end Mat3

namespace Columns

theorem map_subtract (first second : Columns S) :
    List.map (Vec3.map f) (first.subtract second) =
      Columns.subtract
        (first.map (Vec3.map f)) (second.map (Vec3.map f)) := by
  simp [subtract, List.map_zipWith, List.zipWith_map]

theorem map_rotate
    (matrix : Mat3 S)
    (columns : Columns S) :
    List.map (Vec3.map f) (columns.rotate matrix) =
      Columns.rotate (matrix.map f) (columns.map (Vec3.map f)) := by
  simp [rotate]

theorem map_project
    (row : Vec3 S)
    (columns : Columns S) :
    (project row columns).map f =
      project (row.map f) (columns.map (Vec3.map f)) := by
  simp [project, Vec3.apply_rowTimes]

theorem map_combine (pairs : List (Vec3 S × S)) :
    (combine pairs).map f =
      combine (pairs.map (Prod.map (Vec3.map f) f)) := by
  have weighted_map (column : Vec3 S) (weight : S) :
      (weighted column weight).map f =
        weighted (column.map f) (f weight) := by
    simp only [weighted, Vec3.map, PreservesArithmetic.map_mul (f := f),
      PreservesArithmetic.map_one (f := f)]
  have sum_map (sum : Vec3 S) (rest : List (Vec3 S × S)) :
      (rest.foldl
            (fun sum pair => weighted pair.1 pair.2 + sum.map (1 * ·))
            sum).map f =
        (rest.map (Prod.map (Vec3.map f) f)).foldl
          (fun sum pair => weighted pair.1 pair.2 + sum.map (1 * ·))
          (sum.map f) := by
    induction rest generalizing sum with
    | nil =>
        rfl
    | cons pair rest inductionHypothesis =>
        have partialSum :
            (weighted pair.1 pair.2 + sum.map (1 * ·)).map f =
              weighted (pair.1.map f) (f pair.2) +
                (sum.map f).map (1 * ·) := by
          rw [Vec3.map_add, weighted_map]
          simp only [Vec3.map, PreservesArithmetic.map_mul (f := f),
            PreservesArithmetic.map_one (f := f)]
        rw [List.foldl_cons, inductionHypothesis, partialSum]
        rfl
  cases pairs with
  | nil =>
      exact Vec3.map_zero f
  | cons pair rest =>
      obtain ⟨column, weight⟩ := pair
      rw [combine, sum_map, weighted_map]
      rfl

/-- The product with a mapped vector is the mapped product. -/
theorem timesVector_map
    (columns : Columns S)
    (vector : List S) :
    timesVector (columns.map (Vec3.map f)) (vector.map f) =
      Vec3.map f <$> columns.timesVector vector := by
  unfold timesVector
  rw [List.length_map, List.length_map]
  split
  · refine congrArg Except.ok ?_
    rw [map_combine, List.zip_map]
  · rfl

end Columns

end Arithmetic

theorem map_divideVector
    [Div S] [Div T]
    (f : S → T) [PreservesDivision f]
    (vector : List S)
    (divisor : S) :
    (divideVector vector divisor).map f =
      divideVector (vector.map f) (f divisor) := by
  simp [divideVector, PreservesDivision.map_div (f := f)]

end Linkage
