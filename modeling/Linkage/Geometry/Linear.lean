import Linkage.Error
import Linkage.Geometry.Vector

namespace Linkage

/-!
# Vectors and matrices of any size

A state vector is a list of numbers.  A matrix with three rows is a list of
columns, each a vector of space; any other matrix is a list of rows.  As in
space, a product multiplies each term and each partial sum by one, and an
empty product is zero.
-/

variable {T : Type}

/-- Entrywise difference of two vectors of one length. -/
def subtractVectors
    [Sub T]
    (first second : List T) : Except Misuse (List T) :=
  if first.length = second.length then
    .ok (List.zipWith (· - ·) first second)
  else
    .error .lengthsDiffer

/-- The vector `first + second * factor`. -/
def addScaled
    [Add T] [Mul T]
    (first second : List T)
    (factor : T) : Except Misuse (List T) :=
  if first.length = second.length then
    .ok (List.zipWith (fun a b => a + b * factor) first second)
  else
    .error .lengthsDiffer

/-- Each entry divided by a number. -/
def divideVector
    [Div T]
    (vector : List T)
    (divisor : T) : List T :=
  vector.map (· / divisor)

/-- Number of lanes in which a long sum is formed. -/
def laneCount : Nat :=
  8

/--
Sum of a list of numbers.  As long as a whole block of numbers is left, each of
them is added to a lane of its own.  At the end the first half of the lanes is
added to the second, and to the sum of these come the numbers left over.  On a
ring that is the plain sum; on a floating-point type it settles the rounding.
-/
def sumInLanes
    [Zero T] [Add T]
    (lanes numbers : List T) : T :=
  if laneCount ≤ numbers.length then
    sumInLanes
      (List.zipWith (· + ·) lanes (numbers.take laneCount))
      (numbers.drop laneCount)
  else
    let half := laneCount / 2
    let pairs :=
      List.zipWith (· + ·) (lanes.take half) (lanes.drop half)
    (pairs ++ numbers).foldl (· + ·) 0
termination_by numbers.length
decreasing_by
  simp only [laneCount, List.length_drop] at *
  omega

/-- Sum of the squares of the entries. -/
def vectorNormSquared
    [Zero T] [Add T] [Mul T]
    (vector : List T) : T :=
  sumInLanes (List.replicate laneCount 0)
    (vector.map fun value => value * value)

/-- Length of a vector. -/
def vectorNorm
    [Zero T] [Add T] [Mul T] [Elementary T]
    (vector : List T) : T :=
  Elementary.sqrt (vectorNormSquared vector)

/-- Sum of the products of paired numbers. -/
def sumProducts
    [Zero T] [One T] [Add T] [Mul T] :
    List (T × T) → T
  | [] => 0
  | (a, b) :: rest =>
      rest.foldl
        (fun sum pair => 1 * pair.1 * pair.2 + 1 * sum)
        (1 * a * b)

/-- Product of a row and a column. -/
def rowTimesVector
    [Zero T] [One T] [Add T] [Mul T]
    (row vector : List T) : Except Misuse T :=
  if row.length = vector.length then
    .ok (sumProducts (row.zip vector))
  else
    .error .lengthsDiffer

/-- Product of a matrix, given by rows, and a column. -/
def rowsTimesVector
    [Zero T] [One T] [Add T] [Mul T]
    (rows : List (List T))
    (vector : List T) : Except Misuse (List T) :=
  rows.mapM (rowTimesVector · vector)

/-- A matrix with three rows, column by column. -/
abbrev Columns (T : Type) := List (Vec3 T)

namespace Columns

/-- The zero matrix. -/
def zeros
    [Zero T]
    (count : Nat) : Columns T :=
  List.replicate count 0

@[simp] theorem length_zeros [Zero T] (count : Nat) :
    (zeros count : Columns T).length = count := by
  simp [zeros]

/-- The three rows. -/
def toRows
    (columns : Columns T) : List (List T) :=
  [columns.map (·.x), columns.map (·.y), columns.map (·.z)]

/-- Difference of two matrices of one width. -/
def subtract
    [Sub T]
    (first second : Columns T) : Columns T :=
  List.zipWith (· - ·) first second

/-- Each column multiplied by a matrix from the left. -/
def rotate
    [One T] [Add T] [Mul T]
    (matrix : Mat3 T)
    (columns : Columns T) : Columns T :=
  columns.map matrix.apply

@[simp] theorem length_rotate
    [One T] [Add T] [Mul T]
    (matrix : Mat3 T)
    (columns : Columns T) :
    (rotate matrix columns).length = columns.length := by
  simp [rotate]

/-- Product of a row of space with each column. -/
def project
    [One T] [Add T] [Mul T]
    (row : Vec3 T)
    (columns : Columns T) : List T :=
  columns.map row.rowTimes

@[simp] theorem length_project
    [One T] [Add T] [Mul T]
    (row : Vec3 T)
    (columns : Columns T) :
    (project row columns).length = columns.length := by
  simp [project]

/-- One column times one entry of the vector. -/
def weighted
    [One T] [Mul T]
    (column : Vec3 T)
    (weight : T) : Vec3 T :=
  column.map (fun component => 1 * component * weight)

/-- Sum of columns, each with its weight. -/
def combine
    [Zero T] [One T] [Add T] [Mul T] :
    List (Vec3 T × T) → Vec3 T
  | [] => 0
  | (column, weight) :: rest =>
      rest.foldl
        (fun sum pair => weighted pair.1 pair.2 + sum.map (1 * ·))
        (weighted column weight)

/-- Product of the matrix and a vector. -/
def timesVector
    [Zero T] [One T] [Add T] [Mul T]
    (columns : Columns T)
    (vector : List T) : Except Misuse (Vec3 T) :=
  if columns.length = vector.length then
    .ok (combine (columns.zip vector))
  else
    .error .lengthsDiffer

end Columns

end Linkage
