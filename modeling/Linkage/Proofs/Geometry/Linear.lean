import Linkage.Geometry.Linear
import Linkage.Proofs.Geometry.Algebra
import Linkage.Proofs.Number.Exact

namespace Linkage

/-!
# Linear algebra of Jacobians

The product of a matrix and a vector is computed row by row, whatever kind of
number it is made of.  Over a commutative ring it is the plain sum of the
columns, each times an entry of the vector, and everything a Jacobian goes
through on its way to a constraint commutes with it.
-/

variable {T : Type}

/-- A computation that succeeds for every item succeeds for the list. -/
theorem mapM_eq_ok
    {ε α β : Type}
    {compute : α → Except ε β}
    {result : α → β}
    {items : List α}
    (found : ∀ item ∈ items, compute item = .ok (result item)) :
    items.mapM compute = .ok (items.map result) := by
  induction items with
  | nil =>
      rfl
  | cons item rest inductionHypothesis =>
      have later :=
        inductionHypothesis fun other member =>
          found other (by simp [member])
      rw [List.mapM_cons, found item (by simp), later]
      rfl

section Rows

variable [Zero T] [One T] [Add T] [Mul T]

/-- The product of a matrix, given by rows, with a vector of its width. -/
theorem rowsTimesVector_eq
    {rows : List (List T)}
    {vector : List T}
    (sameWidth : ∀ row ∈ rows, row.length = vector.length) :
    rowsTimesVector rows vector =
      .ok (rows.map fun row => sumProducts (row.zip vector)) := by
  refine mapM_eq_ok fun row member => ?_
  exact if_pos (sameWidth row member)

/-- The product of a matrix of one row with a vector of its width. -/
theorem rowsTimesVector_row
    {row vector : List T}
    (sameWidth : row.length = vector.length) :
    rowsTimesVector [row] vector =
      .ok [sumProducts (row.zip vector)] :=
  rowsTimesVector_eq (by simpa using sameWidth)

end Rows

variable [CommRing T]

/-- A sum of products may be split after its first term. -/
theorem sumProducts_cons
    (a b : T)
    (rest : List (T × T)) :
    sumProducts ((a, b) :: rest) = a * b + sumProducts rest := by
  have fold :
      ∀ (pairs : List (T × T)) (start : T),
        pairs.foldl
            (fun sum pair => 1 * pair.1 * pair.2 + 1 * sum) start =
          start + sumProducts pairs := by
    intro pairs
    induction pairs with
    | nil =>
        intro start
        simp [sumProducts]
    | cons pair pairs inductionHypothesis =>
        intro start
        rw [List.foldl_cons, inductionHypothesis]
        obtain ⟨c, d⟩ := pair
        rw [sumProducts, inductionHypothesis]
        ring
  rw [sumProducts, fold]
  ring

@[simp] theorem sumProducts_nil :
    sumProducts ([] : List (T × T)) = 0 := rfl

/-- The product of two vectors is the sum of the products of their entries. -/
theorem sumProducts_eq_sum (row vector : List T) :
    sumProducts (row.zip vector) =
      (List.zipWith (· * ·) row vector).sum := by
  induction row generalizing vector with
  | nil =>
      simp
  | cons entry row inductionHypothesis =>
      cases vector with
      | nil =>
          simp
      | cons weight vector =>
          rw [List.zip_cons_cons, sumProducts_cons, inductionHypothesis,
            List.zipWith_cons_cons, List.sum_cons]

/-- The product of a sum of rows is the sum of their products. -/
theorem sumProducts_add
    {first second : List T}
    (sameWidth : first.length = second.length)
    (vector : List T) :
    sumProducts ((List.zipWith (· + ·) first second).zip vector) =
      sumProducts (first.zip vector) + sumProducts (second.zip vector) := by
  induction first generalizing second vector with
  | nil =>
      cases second with
      | nil => simp
      | cons other second => cases sameWidth
  | cons entry first inductionHypothesis =>
      cases second with
      | nil =>
          cases sameWidth
      | cons other second =>
          cases vector with
          | nil =>
              simp
          | cons weight vector =>
              rw [List.zipWith_cons_cons, List.zip_cons_cons,
                sumProducts_cons,
                inductionHypothesis (Nat.succ.inj sameWidth),
                List.zip_cons_cons, sumProducts_cons,
                List.zip_cons_cons, sumProducts_cons]
              ring

/-- A divided row gives the divided product. -/
theorem sumProducts_divideVector
    [Div T] [LawfulDivision T]
    (row vector : List T)
    (divisor : T) :
    sumProducts ((divideVector row divisor).zip vector) =
      sumProducts (row.zip vector) / divisor := by
  rw [LawfulDivision.div_eq_mul_reciprocal (sumProducts _)]
  induction row generalizing vector with
  | nil =>
      simp [divideVector]
  | cons entry row inductionHypothesis =>
      cases vector with
      | nil =>
          simp
      | cons weight vector =>
          have tail := inductionHypothesis vector
          simp only [divideVector] at tail
          simp only [divideVector, List.map_cons, List.zip_cons_cons,
            sumProducts_cons, tail]
          rw [LawfulDivision.div_eq_mul_reciprocal entry]
          ring

/-- A row times a vector of zeros is zero. -/
theorem sumProducts_replicate_zero
    (row : List T)
    (count : Nat) :
    sumProducts (row.zip (List.replicate count 0)) = 0 := by
  induction row generalizing count with
  | nil =>
      simp
  | cons entry row inductionHypothesis =>
      cases count with
      | zero =>
          simp
      | succ count =>
          rw [List.replicate_succ, List.zip_cons_cons, sumProducts_cons,
            inductionHypothesis, mul_zero, add_zero]

/-- A row times a vector with a single one is the entry at that place. -/
theorem sumProducts_single
    {row : List T}
    {index : Nat}
    {entry : T}
    (found : row[index]? = some entry) :
    sumProducts
        (row.zip ((List.replicate row.length 0).set index 1)) =
      entry := by
  induction row generalizing index with
  | nil =>
      simp at found
  | cons first row inductionHypothesis =>
      cases index with
      | zero =>
          cases found
          simp [List.replicate_succ, sumProducts_cons,
            sumProducts_replicate_zero]
      | succ index =>
          have later := inductionHypothesis found
          simpa [List.replicate_succ, sumProducts_cons] using later

/-- Rows of one width are equal if their products with every vector are. -/
theorem eq_of_sumProducts_eq
    {first second : List T}
    (sameWidth : first.length = second.length)
    (agree :
      ∀ vector : List T,
        vector.length = first.length →
        sumProducts (first.zip vector) =
          sumProducts (second.zip vector)) :
    first = second := by
  induction first generalizing second with
  | nil =>
      cases second with
      | nil => rfl
      | cons other second => cases sameWidth
  | cons entry first inductionHypothesis =>
      cases second with
      | nil =>
          cases sameWidth
      | cons other second =>
          have heads : entry = other := by
            have picked :=
              agree (1 :: List.replicate first.length 0) (by simp)
            simpa [sumProducts_cons, sumProducts_replicate_zero]
              using picked
          have tails : first = second := by
            refine
              inductionHypothesis (Nat.succ.inj sameWidth)
                fun vector sameLength => ?_
            have shifted := agree (0 :: vector) (by simp [sameLength])
            simpa [sumProducts_cons] using shifted
          rw [heads, tails]

namespace Columns

@[simp] theorem combine_nil :
    combine ([] : List (Vec3 T × T)) = 0 := rfl

/-- A sum of weighted columns may be split after its first term. -/
theorem combine_cons
    (column : Vec3 T)
    (weight : T)
    (rest : List (Vec3 T × T)) :
    combine ((column, weight) :: rest) =
      column.scale weight + combine rest := by
  have term :
      ∀ (v : Vec3 T) (factor : T), weighted v factor = v.scale factor := by
    intro v factor
    simp [weighted, Vec3.map, Vec3.scale]
  have fold :
      ∀ (pairs : List (Vec3 T × T)) (start : Vec3 T),
        pairs.foldl
            (fun sum pair =>
              weighted pair.1 pair.2 + sum.map (1 * ·)) start =
          start + combine pairs := by
    intro pairs
    induction pairs with
    | nil =>
        intro start
        simp
    | cons pair pairs inductionHypothesis =>
        intro start
        rw [List.foldl_cons, inductionHypothesis]
        obtain ⟨v, factor⟩ := pair
        rw [combine, inductionHypothesis]
        ext <;> simp [Vec3.map] <;> ring
  rw [combine, fold, term]

/-- The product with a vector of the width of the matrix. -/
theorem timesVector_eq
    {columns : Columns T}
    {vector : List T}
    (sameWidth : columns.length = vector.length) :
    columns.timesVector vector = .ok (combine (columns.zip vector)) :=
  if_pos sameWidth

/-- Scaled weights give the scaled product. -/
theorem combine_scale
    (columns : Columns T)
    (weights : List T)
    (factor : T) :
    combine (columns.zip (weights.map (· * factor))) =
      (combine (columns.zip weights)).scale factor := by
  induction columns generalizing weights with
  | nil =>
      simp
  | cons column columns inductionHypothesis =>
      cases weights with
      | nil =>
          simp
      | cons weight weights =>
          rw [List.map_cons, List.zip_cons_cons, combine_cons,
            inductionHypothesis, List.zip_cons_cons, combine_cons]
          ext <;> simp [Vec3.scale] <;> ring

/-- The product with a scaled vector is the scaled product. -/
theorem timesVector_scale
    (columns : Columns T)
    (vector : List T)
    (factor : T) :
    columns.timesVector (vector.map (· * factor)) =
      (Vec3.scale · factor) <$> columns.timesVector vector := by
  simp only [timesVector, List.length_map, combine_scale]
  split <;> rfl

/-- Weights of zero combine all columns to zero. -/
theorem combine_replicate_zero
    (columns : Columns T)
    (count : Nat) :
    combine (columns.zip (List.replicate count 0)) = 0 := by
  have scaled := combine_scale columns (List.replicate count 0) 0
  rwa [List.map_replicate, mul_zero, Vec3.scale_zero] at scaled

/-- A weight of zero takes its column out of the product. -/
theorem combine_insertIdx_zero
    (columns : Columns T)
    (weights : List T)
    (index : Nat) :
    combine (columns.zip (weights.insertIdx index 0)) =
      combine ((columns.eraseIdx index).zip weights) := by
  induction columns generalizing weights index with
  | nil =>
      simp
  | cons column columns inductionHypothesis =>
      cases index with
      | zero =>
          rw [List.insertIdx_zero, List.zip_cons_cons, combine_cons,
            Vec3.scale_zero, Vec3.zero_add, List.eraseIdx_zero,
            List.tail_cons]
      | succ index =>
          cases weights with
          | nil =>
              simp
          | cons weight weights =>
              rw [List.insertIdx_succ_cons, List.zip_cons_cons,
                combine_cons, inductionHypothesis,
                List.eraseIdx_cons_succ, List.zip_cons_cons,
                combine_cons]

/-- Matrices of one width are equal if their products with every vector are. -/
theorem eq_of_combine_eq
    {first second : Columns T}
    (sameWidth : first.length = second.length)
    (agree :
      ∀ weights : List T,
        weights.length = first.length →
        combine (first.zip weights) = combine (second.zip weights)) :
    first = second := by
  induction first generalizing second with
  | nil =>
      cases second with
      | nil => rfl
      | cons other second => cases sameWidth
  | cons column first inductionHypothesis =>
      cases second with
      | nil =>
          cases sameWidth
      | cons other second =>
          have heads : column = other := by
            have picked :=
              agree (1 :: List.replicate first.length 0) (by simp)
            simpa [combine_cons, combine_replicate_zero, Vec3.scale,
              Vec3.ext_iff] using picked
          have tails : first = second := by
            refine
              inductionHypothesis (Nat.succ.inj sameWidth)
                fun weights sameLength => ?_
            have shifted := agree (0 :: weights) (by simp [sameLength])
            simpa [combine_cons] using shifted
          rw [heads, tails]

/-- Columns of zeros combine to zero. -/
@[simp] theorem combine_zeros
    (count : Nat)
    (weights : List T) :
    combine ((zeros count : Columns T).zip weights) = 0 := by
  induction count generalizing weights with
  | zero =>
      simp [zeros]
  | succ count inductionHypothesis =>
      cases weights with
      | nil =>
          simp
      | cons weight weights =>
          have tail := inductionHypothesis weights
          simp only [zeros] at tail
          simp only [zeros, List.replicate_succ, List.zip_cons_cons,
            combine_cons, tail]
          ext <;> simp [Vec3.scale]

/-- Writing a column in place of a zero adds it with its weight. -/
theorem combine_set
    {columns : Columns T}
    {weights : List T}
    {index : Nat}
    {weight : T}
    (isZero : columns[index]? = some 0)
    (hasWeight : weights[index]? = some weight)
    (column : Vec3 T) :
    combine ((columns.set index column).zip weights) =
      combine (columns.zip weights) + column.scale weight := by
  induction columns generalizing weights index with
  | nil =>
      simp at isZero
  | cons first columns inductionHypothesis =>
      cases weights with
      | nil =>
          simp at hasWeight
      | cons firstWeight weights =>
          cases index with
          | zero =>
              simp only [List.getElem?_cons_zero, Option.some.injEq] at *
              subst isZero hasWeight
              simp only [List.set_cons_zero, List.zip_cons_cons,
                combine_cons]
              ext <;> simp [Vec3.scale] <;> ring
          | succ index =>
              simp only [List.getElem?_cons_succ] at *
              simp only [List.set_cons_succ, List.zip_cons_cons,
                combine_cons, inductionHypothesis isZero hasWeight]
              ext <;> simp <;> ring

/-- Subtracting columns of zeros changes nothing. -/
@[simp] theorem subtract_zeros (columns : Columns T) :
    columns.subtract (zeros columns.length) = columns := by
  induction columns with
  | nil =>
      rfl
  | cons column columns inductionHypothesis =>
      simp only [subtract, zeros] at inductionHypothesis
      simp [subtract, zeros, List.replicate_succ, inductionHypothesis]

/-- The identity matrix turns no column. -/
@[simp] theorem rotate_identity (columns : Columns T) :
    columns.rotate Mat3.identity = columns :=
  (List.map_congr_left fun column _ => Mat3.identity_apply column).trans
    (List.map_id' columns)

/-- Columns that are turned twice are turned by the product. -/
theorem rotate_rotate
    (columns : Columns T)
    (inner outer : Mat3 T) :
    (columns.rotate inner).rotate outer =
      columns.rotate (outer.times inner) := by
  simp only [rotate, List.map_map]
  exact
    List.map_congr_left fun column _ =>
      (Mat3.times_apply outer inner column).symm

/-- The product of a difference is the difference of the products. -/
theorem combine_subtract
    {first second : Columns T}
    (sameWidth : first.length = second.length)
    (weights : List T) :
    combine ((first.subtract second).zip weights) =
      combine (first.zip weights) - combine (second.zip weights) := by
  induction first generalizing second weights with
  | nil =>
      cases second with
      | nil =>
          ext <;> simp [subtract]
      | cons column second =>
          simp at sameWidth
  | cons column first inductionHypothesis =>
      cases second with
      | nil =>
          simp at sameWidth
      | cons other second =>
          cases weights with
          | nil =>
              ext <;> simp
          | cons weight weights =>
              have tail :=
                inductionHypothesis (Nat.succ.inj sameWidth) weights
              simp only [subtract] at tail
              simp only [subtract, List.zipWith_cons_cons,
                List.zip_cons_cons, combine_cons, tail]
              ext <;> simp [Vec3.scale] <;> ring

/-- The product of turned columns is the turned product. -/
theorem combine_rotate
    (matrix : Mat3 T)
    (columns : Columns T)
    (weights : List T) :
    combine ((columns.rotate matrix).zip weights) =
      matrix.apply (combine (columns.zip weights)) := by
  induction columns generalizing weights with
  | nil =>
      ext <;> simp [rotate, Mat3.apply, Vec3.rowTimes_eq]
  | cons column columns inductionHypothesis =>
      cases weights with
      | nil =>
          ext <;> simp [Mat3.apply, Vec3.rowTimes_eq]
      | cons weight weights =>
          have tail := inductionHypothesis weights
          simp only [rotate] at tail
          simp only [rotate, List.map_cons, List.zip_cons_cons,
            combine_cons, tail]
          ext <;> simp [Mat3.apply, Vec3.scale, Vec3.rowTimes_eq] <;> ring

/-- A projected matrix gives the projected product. -/
theorem sumProducts_project
    (row : Vec3 T)
    (columns : Columns T)
    (weights : List T) :
    sumProducts ((columns.project row).zip weights) =
      row.dot (combine (columns.zip weights)) := by
  induction columns generalizing weights with
  | nil =>
      simp [project, Vec3.dot]
  | cons column columns inductionHypothesis =>
      cases weights with
      | nil =>
          simp [Vec3.dot]
      | cons weight weights =>
          have tail := inductionHypothesis weights
          simp only [project] at tail
          simp only [project, List.map_cons, List.zip_cons_cons,
            combine_cons, sumProducts_cons, tail]
          simp [Vec3.dot, Vec3.scale, Vec3.rowTimes_eq]
          ring

/-- The rows of a matrix are its projections on the axes. -/
theorem toRows_eq_project (columns : Columns T) :
    columns.toRows =
      [columns.project ⟨1, 0, 0⟩, columns.project ⟨0, 1, 0⟩,
        columns.project ⟨0, 0, 1⟩] := by
  simp [toRows, project, Vec3.rowTimes_eq]

/-- Multiplied row by row, a matrix gives the combination of its columns. -/
theorem rowsTimesVector_toRows
    {columns : Columns T}
    {vector : List T}
    (sameWidth : columns.length = vector.length) :
    rowsTimesVector columns.toRows vector =
      .ok (combine (columns.zip vector)).toList := by
  have widths :
      ∀ row ∈ columns.toRows, row.length = vector.length := by
    simp [toRows, sameWidth]
  rw [rowsTimesVector_eq widths, toRows_eq_project]
  simp [sumProducts_project, Vec3.dot, Vec3.toList]

end Columns

end Linkage
