import Linkage.Proofs.Constraint.LargestError
import Linkage.Proofs.Constraint.Stacking
import Linkage.Proofs.Mechanism.DeclarationOrder

namespace Linkage

/-!
# Checking a set

The check of a set reads stacked rows at three states, multiplies, subtracts
and divides them, and looks for the largest gap.  All of that is done row by
row, so it may as well be done for each enabled member alone: the set's errors
are the largest of its members' errors, and it passes if they all do.
-/

variable {K : Type}

/-- The state that is checked and one on either side of it. -/
structure Stations (K : Type) where
  here : Snapshot K
  ahead : Snapshot K
  behind : Snapshot K

/-- A table has as many rows, all of one width. -/
def HasShape
    (rows : List (List K))
    (count width : Nat) : Prop :=
  rows.length = count ∧ ∀ row ∈ rows, row.length = width

/-- What a check reads off at three stations. -/
structure Readings (K : Type) where
  residualAhead : List K
  residualBehind : List K
  jacobianHere : List (List K)
  jacobianAhead : List (List K)
  jacobianBehind : List (List K)
  biasHere : List K
  deriving Inhabited

namespace Readings

/-- All readings have as many rows, and Jacobians have the given width. -/
structure Shaped
    (readings : Readings K)
    (width : Nat) : Prop where
  residualBehind :
    readings.residualBehind.length = readings.residualAhead.length
  jacobianHere :
    HasShape readings.jacobianHere readings.residualAhead.length width
  jacobianAhead :
    HasShape readings.jacobianAhead readings.residualAhead.length width
  jacobianBehind :
    HasShape readings.jacobianBehind readings.residualAhead.length width
  biasHere : readings.biasHere.length = readings.residualAhead.length

/-- The readings are what some outputs hold at the stations. -/
structure ReadOff
    (readings : Readings K)
    (outputs : Snapshot K → Outputs K)
    (stations : Stations K) : Prop where
  residualAhead :
    (outputs stations.ahead).residual = .ok readings.residualAhead
  residualBehind :
    (outputs stations.behind).residual = .ok readings.residualBehind
  jacobianHere :
    (outputs stations.here).jacobian = .ok readings.jacobianHere
  jacobianAhead :
    (outputs stations.ahead).jacobian = .ok readings.jacobianAhead
  jacobianBehind :
    (outputs stations.behind).jacobian = .ok readings.jacobianBehind
  biasHere :
    (outputs stations.here).bias = .ok readings.biasHere

/-- Outputs that are shaped at all stations can be read off there. -/
theorem exists_readOff
    {outputs : Snapshot K → Outputs K}
    {stations : Stations K}
    {count width : Nat}
    (here : (outputs stations.here).Shaped count width)
    (ahead : (outputs stations.ahead).Shaped count width)
    (behind : (outputs stations.behind).Shaped count width) :
    ∃ readings : Readings K,
      readings.ReadOff outputs stations ∧
        readings.Shaped width ∧
        readings.residualAhead.length = count := by
  obtain ⟨residualAhead, aheadFound, aheadCount⟩ := ahead.residual
  obtain ⟨residualBehind, behindFound, behindCount⟩ := behind.residual
  obtain ⟨jacobianHere, hereRows, hereRowCount, hereWidths⟩ :=
    here.jacobian
  obtain ⟨jacobianAhead, aheadRows, aheadRowCount, aheadWidths⟩ :=
    ahead.jacobian
  obtain ⟨jacobianBehind, behindRows, behindRowCount, behindWidths⟩ :=
    behind.jacobian
  obtain ⟨biasHere, biasFound, biasCount⟩ := here.bias
  refine
    ⟨⟨residualAhead, residualBehind, jacobianHere, jacobianAhead,
        jacobianBehind, biasHere⟩,
      ⟨aheadFound, behindFound, hereRows, aheadRows, behindRows,
        biasFound⟩, ?_, aheadCount⟩
  exact
    { residualBehind := behindCount.trans aheadCount.symm
      jacobianHere := ⟨hereRowCount.trans aheadCount.symm, hereWidths⟩
      jacobianAhead := ⟨aheadRowCount.trans aheadCount.symm, aheadWidths⟩
      jacobianBehind :=
        ⟨behindRowCount.trans aheadCount.symm, behindWidths⟩
      biasHere := biasCount.trans aheadCount.symm }

/-- Readings one below the other. -/
def stack
    (parts : List (Readings K)) : Readings K where
  residualAhead := parts.flatMap (·.residualAhead)
  residualBehind := parts.flatMap (·.residualBehind)
  jacobianHere := parts.flatMap (·.jacobianHere)
  jacobianAhead := parts.flatMap (·.jacobianAhead)
  jacobianBehind := parts.flatMap (·.jacobianBehind)
  biasHere := parts.flatMap (·.biasHere)

end Readings

/-- Blocks of the same heights are as high one below the other. -/
theorem length_flatMap_eq
    {α β γ : Type}
    {items : List α}
    {first : α → List β}
    {second : α → List γ}
    (same : ∀ item ∈ items, (first item).length = (second item).length) :
    (items.flatMap first).length = (items.flatMap second).length := by
  rw [List.length_flatMap, List.length_flatMap, List.map_congr_left same]

/-- Tables of one width, one below the other, are a table of that width. -/
theorem hasShape_flatMap
    {α β : Type}
    {items : List α}
    {rows : α → List (List K)}
    {block : α → List β}
    {width : Nat}
    (shaped :
      ∀ item ∈ items, HasShape (rows item) (block item).length width) :
    HasShape (items.flatMap rows) (items.flatMap block).length width := by
  refine
    ⟨length_flatMap_eq fun item member => (shaped item member).1, ?_⟩
  intro row inside
  obtain ⟨item, member, inItem⟩ := List.mem_flatMap.mp inside
  exact (shaped item member).2 row inItem

/-- Stacked readings are shaped if all parts are. -/
theorem Readings.Shaped.stack
    {parts : List (Readings K)}
    {width : Nat}
    (shaped : ∀ part ∈ parts, part.Shaped width) :
    (Readings.stack parts).Shaped width where
  residualBehind :=
    length_flatMap_eq fun part member =>
      (shaped part member).residualBehind
  jacobianHere :=
    hasShape_flatMap fun part member => (shaped part member).jacobianHere
  jacobianAhead :=
    hasShape_flatMap fun part member => (shaped part member).jacobianAhead
  jacobianBehind :=
    hasShape_flatMap fun part member => (shaped part member).jacobianBehind
  biasHere :=
    length_flatMap_eq fun part member => (shaped part member).biasHere

section Gaps

variable [One K] [Add K] [Sub K] [Mul K] [Div K]

/-- Gap between a central difference and what it should be. -/
def differenceGap
    (step : K)
    (ahead behind expected : List K) : List K :=
  List.zipWith (· - ·)
    (divideVector (List.zipWith (· - ·) ahead behind) (two * step))
    expected

/-- Gaps of blocks are found block by block. -/
theorem differenceGap_flatMap
    {α : Type}
    {items : List α}
    {ahead behind expected : α → List K}
    (sameBehind :
      ∀ item ∈ items, (behind item).length = (ahead item).length)
    (sameExpected :
      ∀ item ∈ items, (expected item).length = (ahead item).length)
    (step : K) :
    differenceGap step (items.flatMap ahead) (items.flatMap behind)
        (items.flatMap expected) =
      items.flatMap fun item =>
        differenceGap step (ahead item) (behind item) (expected item) := by
  induction items with
  | nil =>
      rfl
  | cons item rest inductionHypothesis =>
      have later :=
        inductionHypothesis
          (fun other member => sameBehind other (by simp [member]))
          (fun other member => sameExpected other (by simp [member]))
      have behindCount := sameBehind item (by simp)
      have expectedCount := sameExpected item (by simp)
      rw [List.flatMap_cons, List.flatMap_cons, List.flatMap_cons,
        List.flatMap_cons, ← later]
      simp only [differenceGap, divideVector]
      rw [List.zipWith_append behindCount.symm, List.map_append,
        List.zipWith_append (by simp [behindCount, expectedCount])]

/-- A gap of vectors of one length is computed without misuse. -/
theorem bind_subtractVectors
    {ahead behind expected : List K}
    (sameBehind : behind.length = ahead.length)
    (sameExpected : expected.length = ahead.length)
    (step : K) :
    subtractVectors ahead behind =
        .ok (List.zipWith (· - ·) ahead behind) ∧
      subtractVectors
          (divideVector (List.zipWith (· - ·) ahead behind) (two * step))
          expected =
        .ok (differenceGap step ahead behind expected) := by
  refine ⟨if_pos sameBehind.symm, if_pos ?_⟩
  simp [divideVector, sameBehind, sameExpected]

end Gaps

section Products

variable [Zero K] [One K] [Add K] [Mul K]

/-- Product of rows and a vector, row by row. -/
def products
    (rows : List (List K))
    (vector : List K) : List K :=
  rows.map fun row => sumProducts (row.zip vector)

/-- Rows of the width of a vector can be multiplied with it. -/
theorem rowsTimesVector_eq_products
    {rows : List (List K)}
    {vector : List K}
    {count : Nat}
    (shaped : HasShape rows count vector.length) :
    rowsTimesVector rows vector = .ok (products rows vector) :=
  rowsTimesVector_eq shaped.2

theorem HasShape.length_products
    {rows : List (List K)}
    {count width : Nat}
    (shaped : HasShape rows count width)
    (vector : List K) :
    (products rows vector).length = count := by
  rw [products, List.length_map, shaped.1]

theorem products_flatMap
    {α : Type}
    (items : List α)
    (rows : α → List (List K))
    (vector : List K) :
    products (items.flatMap rows) vector =
      items.flatMap fun item => products (rows item) vector := by
  simp only [products, List.map_flatMap]

end Products

section Report

variable [Zero K] [One K] [Add K] [Sub K] [Neg K] [Mul K] [Div K]
variable [BEq K] [LT K] [DecidableLT K]

namespace Readings

/-- What a check reports about its readings. -/
def report
    (readings : Readings K)
    (settings : CheckSettings K)
    (velocities : List K) : CheckReport K where
  jacobianError :=
    largestMagnitude
      (differenceGap settings.step
        readings.residualAhead readings.residualBehind
        (products readings.jacobianHere velocities))
  biasError :=
    largestMagnitude
      (differenceGap settings.step
        (products readings.jacobianAhead velocities)
        (products readings.jacobianBehind velocities)
        readings.biasHere)
  tolerance := settings.tolerance

/-- The errors of stacked readings are the largest of those of the parts. -/
theorem report_stack
    [LE K] [LawfulComparison K]
    {parts : List (Readings K)}
    {width : Nat}
    (shaped : ∀ part ∈ parts, part.Shaped width)
    (settings : CheckSettings K)
    (velocities : List K) :
    IsLargest
        (parts.map fun part => (part.report settings velocities).jacobianError)
        ((stack parts).report settings velocities).jacobianError ∧
      IsLargest
        (parts.map fun part => (part.report settings velocities).biasError)
        ((stack parts).report settings velocities).biasError := by
  simp only [report, stack, products_flatMap]
  constructor
  · rw [differenceGap_flatMap]
    · exact isLargest_flatMap _ _
    · intro part member
      exact (shaped part member).residualBehind
    · intro part member
      exact (shaped part member).jacobianHere.length_products velocities
  · rw [differenceGap_flatMap]
    · exact isLargest_flatMap _ _
    · intro part member
      have own := shaped part member
      rw [own.jacobianBehind.length_products,
        own.jacobianAhead.length_products]
    · intro part member
      have own := shaped part member
      rw [own.biasHere, own.jacobianAhead.length_products]

/-- Stacked readings pass if all parts do. -/
theorem report_stack_passed_iff
    [LE K] [DecidableLE K] [LawfulComparison K]
    {parts : List (Readings K)}
    {width : Nat}
    (shaped : ∀ part ∈ parts, part.Shaped width)
    {settings : CheckSettings K}
    (notNegative : 0 ≤ settings.tolerance)
    (velocities : List K) :
    ((stack parts).report settings velocities).passed = true ↔
      ∀ part ∈ parts, (part.report settings velocities).passed = true := by
  obtain ⟨jacobianLargest, biasLargest⟩ :=
    report_stack shaped settings velocities
  have jacobianBounded := jacobianLargest.le_iff notNegative
  have biasBounded := biasLargest.le_iff notNegative
  rw [List.forall_mem_map] at jacobianBounded biasBounded
  rw [CheckReport.passed_iff]
  refine (and_congr jacobianBounded biasBounded).trans ?_
  rw [← forall₂_and]
  exact forall₂_congr fun part _ => (CheckReport.passed_iff _).symm

end Readings

end Report

section Stations

variable [Zero K] [One K] [Add K] [Sub K] [Neg K] [Mul K]
variable [Elementary K]

/-- The stations of a check are where its steps along the velocity lead. -/
structure Stations.Reached
    (stations : Stations K)
    (mechanism : Mechanism K)
    (step : K)
    (positions velocities : List K) : Prop where
  here : mechanism.snapshot positions velocities = .ok stations.here
  ahead :
    ∃ moved,
      Mechanism.advance positions velocities step = .ok moved ∧
        mechanism.snapshot moved velocities = .ok stations.ahead
  behind :
    ∃ moved,
      Mechanism.advance positions velocities (-step) = .ok moved ∧
        mechanism.snapshot moved velocities = .ok stations.behind

namespace Stations

variable {mechanism : Mechanism K}
variable {step : K}
variable {positions velocities : List K}
variable {stations : Stations K}

/-- What holds at every state with these velocities holds at all stations. -/
theorem Reached.all
    (reached : stations.Reached mechanism step positions velocities)
    {Holds : Snapshot K → Prop}
    (holds :
      ∀ {moved : List K} {snapshot : Snapshot K},
        mechanism.snapshot moved velocities = .ok snapshot →
        Holds snapshot) :
    Holds stations.here ∧ Holds stations.ahead ∧ Holds stations.behind := by
  obtain ⟨_, _, ahead⟩ := reached.ahead
  obtain ⟨_, _, behind⟩ := reached.behind
  exact ⟨holds reached.here, holds ahead, holds behind⟩

/-- From a state of the right size all stations are reached. -/
theorem exists_reached
    (grounded : mechanism.Grounded)
    (positionCount : positions.length = mechanism.dofCount)
    (velocityCount : velocities.length = mechanism.dofCount)
    (step : K) :
    ∃ stations : Stations K,
      stations.Reached mechanism step positions velocities := by
  have sameLength : positions.length = velocities.length :=
    positionCount.trans velocityCount.symm
  have moved :
      ∀ duration : K,
        ∃ moved snapshot,
          Mechanism.advance positions velocities duration = .ok moved ∧
            mechanism.snapshot moved velocities = .ok snapshot := by
    intro duration
    let target :=
      List.zipWith (fun a b => a + b * duration) positions velocities
    have targetCount : target.length = mechanism.dofCount := by
      simp [target, positionCount, velocityCount]
    obtain ⟨snapshot, found, _⟩ :=
      grounded.snapshot_ok targetCount velocityCount
    exact ⟨target, snapshot, if_pos sameLength, found⟩
  obtain ⟨here, hereFound, _⟩ :=
    grounded.snapshot_ok positionCount velocityCount
  obtain ⟨aheadPositions, ahead, aheadMoved, aheadFound⟩ := moved step
  obtain ⟨behindPositions, behind, behindMoved, behindFound⟩ :=
    moved (-step)
  exact
    ⟨⟨here, ahead, behind⟩, hereFound,
      ⟨aheadPositions, aheadMoved, aheadFound⟩,
      ⟨behindPositions, behindMoved, behindFound⟩⟩

end Stations

end Stations

section Check

variable [Zero K] [One K] [Add K] [Sub K] [Neg K] [Mul K] [Div K]
variable [BEq K] [LT K] [DecidableLT K] [Elementary K]
variable {mechanism : Mechanism K}
variable {settings : CheckSettings K}
variable {positions velocities : List K}
variable {stations : Stations K}

/-- A check reads, and reports about its readings. -/
theorem centralDifference_eq_report
    (valid : settings.validate = .ok ())
    (reached :
      stations.Reached mechanism settings.step positions velocities)
    {outputs : Snapshot K → Outputs K}
    {readings : Readings K}
    (readOff : readings.ReadOff outputs stations)
    (shaped : readings.Shaped velocities.length) :
    centralDifference mechanism
        (outputs · |>.residual) (outputs · |>.jacobian) (outputs · |>.bias)
        settings positions velocities =
      .ok (readings.report settings velocities) := by
  obtain ⟨aheadPositions, aheadMoved, aheadFound⟩ := reached.ahead
  obtain ⟨behindPositions, behindMoved, behindFound⟩ := reached.behind
  obtain ⟨residualDifference, residualGap⟩ :=
    bind_subtractVectors shaped.residualBehind
      (shaped.jacobianHere.length_products velocities) settings.step
  have aheadCount := shaped.jacobianAhead.length_products velocities
  have behindCount := shaped.jacobianBehind.length_products velocities
  obtain ⟨productDifference, productGap⟩ :=
    bind_subtractVectors (behindCount.trans aheadCount.symm)
      (shaped.biasHere.trans aheadCount.symm) settings.step
  simp only [centralDifference, Failure.ok_bind, Failure.liftM_ok_of_misuse,
    Failure.liftM_ok_of_refusal, valid,
    reached.here, aheadMoved, aheadFound, behindMoved, behindFound,
    readOff.residualAhead, readOff.residualBehind, readOff.jacobianHere,
    readOff.jacobianAhead, readOff.jacobianBehind, readOff.biasHere,
    rowsTimesVector_eq_products shaped.jacobianHere,
    rowsTimesVector_eq_products shaped.jacobianAhead,
    rowsTimesVector_eq_products shaped.jacobianBehind,
    residualDifference, residualGap, productDifference, productGap]
  rfl

/-- The check of a constraint reports about what is read off it. -/
theorem Constraint.checkDerivatives_eq_report
    {constraint : Constraint K K}
    {readings : Readings K}
    (valid : settings.validate = .ok ())
    (reached :
      stations.Reached constraint.model.mechanism settings.step
        positions velocities)
    (readOff : readings.ReadOff constraint.outputs stations)
    (shaped : readings.Shaped velocities.length) :
    constraint.checkDerivatives settings positions velocities =
      .ok (readings.report settings velocities) := by
  have reported := centralDifference_eq_report valid reached readOff shaped
  exact reported

/-- The check of a set reports about what is read off the set. -/
theorem ConstraintSet.checkDerivatives_eq_report
    {set : ConstraintSet K K}
    {readings : Readings K}
    (valid : settings.validate = .ok ())
    (reached :
      stations.Reached set.model.mechanism settings.step
        positions velocities)
    (readOff : readings.ReadOff set.outputs stations)
    (shaped : readings.Shaped velocities.length) :
    set.checkDerivatives settings positions velocities =
      .ok (readings.report settings velocities) := by
  have reported := centralDifference_eq_report valid reached readOff shaped
  exact reported

end Check

/-- Valid settings have a tolerance that is not negative. -/
theorem CheckSettings.tolerance_not_negative
    [Zero K] [Sub K] [BEq K] [LT K] [LE K] [DecidableLT K]
    [LawfulComparison K]
    {settings : CheckSettings K}
    (valid : settings.validate = .ok ()) :
    0 ≤ settings.tolerance := by
  rw [validate] at valid
  split at valid
  · cases valid
  · split at valid
    · cases valid
    · rename_i positive
      rw [Bool.not_eq_true, Bool.not_eq_false'] at positive
      exact le_of_below (positive_of_isPositiveFinite positive)

namespace ConstraintSet

/-- What is read off a set is what is read off its enabled members. -/
theorem stack_readOff
    [Zero K]
    {set : ConstraintSet K K}
    {stations : Stations K}
    {part : Constraint K K → Readings K}
    (readOff :
      ∀ constraint ∈ enabledConstraints set.members,
        (part constraint).ReadOff constraint.outputs stations)
    (shaped :
      ∀ constraint ∈ enabledConstraints set.members,
        (part constraint).Shaped set.model.mechanism.dofCount)
    (announced :
      ∀ constraint ∈ enabledConstraints set.members,
        (part constraint).residualAhead.length = constraint.length) :
    (Readings.stack ((enabledConstraints set.members).map part)).ReadOff
      set.outputs stations where
  residualAhead := by
    simp only [Readings.stack, List.flatMap_map]
    exact
      stackValues_eq_flatMap
        (fun constraint inside => (readOff constraint inside).residualAhead)
        announced
  residualBehind := by
    simp only [Readings.stack, List.flatMap_map]
    exact
      stackValues_eq_flatMap
        (fun constraint inside => (readOff constraint inside).residualBehind)
        (fun constraint inside =>
          (shaped constraint inside).residualBehind.trans
            (announced constraint inside))
  jacobianHere := by
    simp only [Readings.stack, List.flatMap_map]
    exact
      stackTable_eq_flatMap
        (fun constraint inside => (readOff constraint inside).jacobianHere)
        (fun constraint inside =>
          (shaped constraint inside).jacobianHere.1.trans
            (announced constraint inside))
        (fun constraint inside =>
          (shaped constraint inside).jacobianHere.2)
  jacobianAhead := by
    simp only [Readings.stack, List.flatMap_map]
    exact
      stackTable_eq_flatMap
        (fun constraint inside => (readOff constraint inside).jacobianAhead)
        (fun constraint inside =>
          (shaped constraint inside).jacobianAhead.1.trans
            (announced constraint inside))
        (fun constraint inside =>
          (shaped constraint inside).jacobianAhead.2)
  jacobianBehind := by
    simp only [Readings.stack, List.flatMap_map]
    exact
      stackTable_eq_flatMap
        (fun constraint inside => (readOff constraint inside).jacobianBehind)
        (fun constraint inside =>
          (shaped constraint inside).jacobianBehind.1.trans
            (announced constraint inside))
        (fun constraint inside =>
          (shaped constraint inside).jacobianBehind.2)
  biasHere := by
    simp only [Readings.stack, List.flatMap_map]
    exact
      stackValues_eq_flatMap
        (fun constraint inside => (readOff constraint inside).biasHere)
        (fun constraint inside =>
          (shaped constraint inside).biasHere.trans
            (announced constraint inside))

variable [Zero K] [One K] [Add K] [Sub K] [Neg K] [Mul K] [Div K]
variable [BEq K] [LT K] [LE K] [DecidableLT K] [DecidableLE K]
variable [Elementary K] [LawfulComparison K]

/--
A set can be checked wherever its enabled members keep their promise, and so can
each of them.  Each error of the set is the largest of its members' errors,
which is not a number if one of theirs is none, and zero if no member is
enabled.  So the set passes exactly when all enabled members do.
-/
theorem check_of_set_is_check_of_members
    {set : ConstraintSet K K}
    (grounded : set.model.mechanism.Grounded)
    (sameModel :
      ∀ constraint ∈ enabledConstraints set.members,
        constraint.model = set.model)
    {settings : CheckSettings K}
    (valid : settings.validate = .ok ())
    {positions velocities : List K}
    (positionCount : positions.length = set.model.mechanism.dofCount)
    (velocityCount : velocities.length = set.model.mechanism.dofCount)
    (answers :
      ∀ {moved : List K} {snapshot : Snapshot K},
        set.model.mechanism.snapshot moved velocities = .ok snapshot →
        ∀ constraint ∈ enabledConstraints set.members,
          constraint.Answers snapshot set.model.mechanism.dofCount) :
    ∃ (report : CheckReport K) (own : Constraint K K → CheckReport K),
      set.checkDerivatives settings positions velocities = .ok report ∧
        (∀ constraint ∈ enabledConstraints set.members,
          constraint.checkDerivatives settings positions velocities =
            .ok (own constraint)) ∧
        IsLargest
          ((enabledConstraints set.members).map (own · |>.jacobianError))
          report.jacobianError ∧
        IsLargest
          ((enabledConstraints set.members).map (own · |>.biasError))
          report.biasError ∧
        (report.passed = true ↔
          ∀ constraint ∈ enabledConstraints set.members,
            (own constraint).passed = true) := by
  obtain ⟨stations, reached⟩ :=
    Stations.exists_reached grounded positionCount velocityCount
      settings.step
  have read :
      ∀ constraint ∈ enabledConstraints set.members,
        ∃ readings : Readings K,
          readings.ReadOff constraint.outputs stations ∧
            readings.Shaped set.model.mechanism.dofCount ∧
            readings.residualAhead.length = constraint.length := by
    intro constraint inside
    obtain ⟨here, ahead, behind⟩ :=
      reached.all fun found => answers found constraint inside
    exact Readings.exists_readOff here ahead behind
  choose! part readOff shaped announced using read
  let parts := (enabledConstraints set.members).map part
  have partsShaped :
      ∀ own ∈ parts, own.Shaped velocities.length := by
    rw [List.forall_mem_map, velocityCount]
    exact shaped
  have ownChecked :
      ∀ constraint ∈ enabledConstraints set.members,
        constraint.checkDerivatives settings positions velocities =
          .ok ((part constraint).report settings velocities) := by
    intro constraint inside
    refine
      Constraint.checkDerivatives_eq_report valid ?_
        (readOff constraint inside) ?_
    · rwa [sameModel constraint inside]
    · rw [velocityCount]
      exact shaped constraint inside
  have checked :
      set.checkDerivatives settings positions velocities =
        .ok ((Readings.stack parts).report settings velocities) :=
    checkDerivatives_eq_report valid reached
      (stack_readOff readOff shaped announced)
      (Readings.Shaped.stack partsShaped)
  obtain ⟨jacobianLargest, biasLargest⟩ :=
    Readings.report_stack partsShaped settings velocities
  have passed :=
    Readings.report_stack_passed_iff partsShaped
      (CheckSettings.tolerance_not_negative valid) velocities
  rw [List.map_map] at jacobianLargest biasLargest
  rw [List.forall_mem_map] at passed
  exact
    ⟨_, fun constraint => (part constraint).report settings velocities,
      checked, ownChecked, jacobianLargest, biasLargest, passed⟩

/-- How far the boom of the crane ends from the end of the rail. -/
def craneSpan : Distance Float where
  name := "span"
  model := ⟨0, Mechanism.craneThenRail⟩
  pointA := 0
  frameA := ⟨2⟩
  pointB := 0
  frameB := ⟨3⟩
  target := 4
  rows := .all 1

/-- The end of the rail, pinned above the world. -/
def railPin : Anchor Float where
  name := "pin"
  model := ⟨0, Mechanism.craneThenRail⟩
  point := 0
  frame := ⟨3⟩
  target := ⟨0, 0, 1⟩
  view := .identity
  rows := ⟨3, [2]⟩

/-- The span, nothing of the disabled pin, and the pin once more. -/
def craneConstraints : ConstraintSet Float Float where
  model := ⟨0, Mechanism.craneThenRail⟩
  members :=
    [⟨craneSpan.toConstraint, true⟩,
      ⟨railPin.toConstraint, false⟩,
      ⟨railPin.toConstraint, true⟩]

/-- Two of the three constraints on the crane, together and each alone. -/
theorem check_of_set_is_check_of_members_crane :
    Mechanism.craneThenRail.Grounded ∧
      (CheckSettings.standard : CheckSettings Float).validate = .ok () ∧
      ∃ report span pin : CheckReport Float,
        craneConstraints.checkDerivatives .standard [1, 2, 3] [4, 5, 6] =
          .ok report ∧
        craneSpan.toConstraint.checkDerivatives .standard
            [1, 2, 3] [4, 5, 6] =
          .ok span ∧
        railPin.toConstraint.checkDerivatives .standard
            [1, 2, 3] [4, 5, 6] =
          .ok pin ∧
        IsLargest [span.jacobianError, pin.jacobianError]
          report.jacobianError ∧
        IsLargest [span.biasError, pin.biasError] report.biasError ∧
        (report.passed = true ↔ span.passed = true ∧ pin.passed = true) := by
  have wellFormed :=
    Mechanism.craneThenRail_assembled.built.wellFormed
  have valid :
      (CheckSettings.standard : CheckSettings Float).validate = .ok () := by
    decide +kernel
  have enabled :
      enabledConstraints craneConstraints.members =
        [craneSpan.toConstraint, railPin.toConstraint] :=
    rfl
  have sameModel :
      ∀ constraint ∈ enabledConstraints craneConstraints.members,
        constraint.model = craneConstraints.model := by
    rw [enabled]
    simp only [List.mem_cons, List.not_mem_nil, or_false]
    rintro constraint (rfl | rfl) <;> rfl
  have answers :
      ∀ {moved : List Float} {snapshot : Snapshot Float},
        craneConstraints.model.mechanism.snapshot moved [4, 5, 6] =
          .ok snapshot →
        ∀ constraint ∈ enabledConstraints craneConstraints.members,
          constraint.Answers snapshot
            craneConstraints.model.mechanism.dofCount := by
    intro moved snapshot found
    have taken := (Mechanism.grounded_of_snapshot found).2
    rw [enabled]
    simp only [List.mem_cons, List.not_mem_nil, or_false]
    rintro constraint (rfl | rfl)
    · exact Distance.answers wellFormed taken rfl rfl rfl rfl
    · exact Anchor.answers wellFormed taken rfl rfl
  obtain ⟨report, own, checked, ownChecked, jacobianLargest, biasLargest,
      passed⟩ :=
    check_of_set_is_check_of_members wellFormed.grounded sameModel valid
      (rfl : [(1 : Float), 2, 3].length = 3)
      (rfl : [(4 : Float), 5, 6].length = 3) answers
  rw [enabled] at ownChecked jacobianLargest biasLargest passed
  rw [List.forall_mem_cons, List.forall_mem_singleton] at ownChecked passed
  exact
    ⟨wellFormed.grounded, valid, report, own craneSpan.toConstraint,
      own railPin.toConstraint, checked, ownChecked.1, ownChecked.2,
      jacobianLargest, biasLargest, passed⟩

end ConstraintSet

end Linkage
