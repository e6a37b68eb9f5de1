import Mathlib.Data.List.Induction
import Linkage.Constraint.Set

namespace Linkage

/-!
# Runs of a set

A run makes calls on a set, one after another: constraints are added and
members are switched on or off.  A call that is refused leaves the set as it
is.  All that remains of a run is what was accepted: the constraints in the
order in which they were added, each with the flag that its index was given
last.
-/

variable {K T : Type}

/-- A call on a set, with what its caller provides. -/
inductive SetCall (K T : Type) where
  | add (constraint : Constraint K T)
  | setEnabled (index : Nat) (enabled : Bool)

namespace SetCall

/-- The constraint that a call adds. -/
def constraint? : SetCall K T → Option (Constraint K T)
  | .add constraint => some constraint
  | .setEnabled .. => none

/-- The flag that a call gives to the member at an index. -/
def flag?
    (index : Nat) : SetCall K T → Option Bool
  | .add _ => none
  | .setEnabled switched enabled =>
      if switched = index then some enabled else none

/-- Constraints in the order in which calls add them. -/
def constraints
    (calls : List (SetCall K T)) : List (Constraint K T) :=
  calls.filterMap constraint?

/-- The flag that calls give an index last; without any it is enabled. -/
def lastFlag
    (calls : List (SetCall K T))
    (index : Nat) : Bool :=
  (calls.filterMap (flag? index)).getLast?.getD true

@[simp] theorem constraints_concat_add
    (calls : List (SetCall K T))
    (constraint : Constraint K T) :
    constraints (calls ++ [.add constraint]) =
      constraints calls ++ [constraint] := by
  simp [constraints, constraint?]

@[simp] theorem constraints_concat_setEnabled
    (calls : List (SetCall K T))
    (index : Nat)
    (enabled : Bool) :
    constraints (calls ++ [.setEnabled index enabled]) =
      constraints calls := by
  simp [constraints, constraint?]

@[simp] theorem lastFlag_concat_add
    (calls : List (SetCall K T))
    (constraint : Constraint K T) :
    lastFlag (calls ++ [.add constraint]) = lastFlag calls := by
  funext index
  simp [lastFlag, flag?]

@[simp] theorem lastFlag_concat_setEnabled
    (calls : List (SetCall K T))
    (switched : Nat)
    (enabled : Bool)
    (index : Nat) :
    lastFlag (calls ++ [.setEnabled switched enabled]) index =
      if switched = index then enabled else lastFlag calls index := by
  by_cases same : switched = index <;> simp [lastFlag, flag?, same]

end SetCall

namespace ConstraintSet

/-- The set after a call and the change that is recorded, if it is accepted. -/
def attempt
    (set : ConstraintSet K T) :
    SetCall K T →
      Except (Refusal K) (ConstraintSet K T × Option SetChange)
  | .add constraint =>
      (fun (after, change) => (after, some change)) <$>
        set.add constraint
  | .setEnabled index enabled => set.setEnabled index enabled

/-- Make a call.  One that is refused changes nothing. -/
def perform
    (set : ConstraintSet K T)
    (call : SetCall K T) : ConstraintSet K T :=
  match set.attempt call with
  | .ok (after, _) => after
  | .error _ => set

/-- Make calls in order. -/
def run
    (set : ConstraintSet K T)
    (calls : List (SetCall K T)) : ConstraintSet K T :=
  calls.foldl perform set

/-- The calls of a run that are accepted, in order. -/
def accepted
    (set : ConstraintSet K T) :
    List (SetCall K T) → List (SetCall K T)
  | [] => []
  | call :: later =>
      match set.attempt call with
      | .ok (after, _) => call :: after.accepted later
      | .error _ => set.accepted later

variable {set after : ConstraintSet K T}
variable {change : Option SetChange}
variable {refusal : Refusal K}

/-- A constraint is accepted if it was made on the model of the set. -/
theorem attempt_add_eq_ok_iff
    {constraint : Constraint K T} :
    set.attempt (.add constraint) = .ok (after, change) ↔
      constraint.model.identity = set.model.identity ∧
        after =
          { set with members := set.members ++ [⟨constraint, true⟩] } ∧
        change =
          some (.added set.size constraint.length constraint.name) := by
  by_cases same : constraint.model.identity = set.model.identity
  · simp [attempt, add, same, Except.map, Functor.map, eq_comm]
  · simp [attempt, add, same, Except.map, Functor.map]

/-- A member that is there can be switched. -/
theorem attempt_setEnabled_eq_ok_iff
    {index : Nat}
    {enabled : Bool} :
    set.attempt (.setEnabled index enabled) = .ok (after, change) ↔
      ∃ member,
        set.members[index]? = some member ∧
          after =
            { set with
                members :=
                  set.members.set index { member with enabled } } ∧
          change =
            if member.enabled = enabled then
              none
            else
              some (.toggled index member.constraint.name enabled) := by
  cases found : set.members[index]? with
  | none =>
      simp [attempt, setEnabled, member, found, bind, Except.bind]
  | some member =>
      simp [attempt, setEnabled, ConstraintSet.member, found, bind,
        Except.bind, eq_comm]

theorem perform_of_ok
    {call : SetCall K T}
    (isAccepted : set.attempt call = .ok (after, change)) :
    set.perform call = after := by
  rw [perform, isAccepted]

theorem perform_of_error
    {call : SetCall K T}
    (refused : set.attempt call = .error refusal) :
    set.perform call = set := by
  rw [perform, refused]

@[simp] theorem run_nil (set : ConstraintSet K T) :
    set.run [] = set := rfl

@[simp] theorem run_cons
    (set : ConstraintSet K T)
    (call : SetCall K T)
    (later : List (SetCall K T)) :
    set.run (call :: later) = (set.perform call).run later := rfl

/-- A run can be interrupted anywhere. -/
theorem run_append
    (set : ConstraintSet K T)
    (first later : List (SetCall K T)) :
    set.run (first ++ later) = (set.run first).run later :=
  List.foldl_append

/-- Members made of constraints and of the flag of each index. -/
def flagged
    (constraints : List (Constraint K T))
    (flag : Nat → Bool) : List (Member K T) :=
  constraints.mapIdx fun index constraint => ⟨constraint, flag index⟩

@[simp] theorem getElem?_flagged
    (constraints : List (Constraint K T))
    (flag : Nat → Bool)
    (index : Nat) :
    (flagged constraints flag)[index]? =
      constraints[index]?.map fun constraint =>
        ⟨constraint, flag index⟩ := by
  simp [flagged, List.getElem?_mapIdx]

/--
What was accepted accounts for the members: they are the constraints that were
added, with the flags that were given last, and no flag was given beyond them.
-/
structure Accounts
    (history : List (SetCall K T))
    (set : ConstraintSet K T) : Prop where
  members_eq :
    set.members =
      flagged (SetCall.constraints history) (SetCall.lastFlag history)
  enabled_beyond :
    ∀ {index : Nat},
      set.size ≤ index → SetCall.lastFlag history index = true

namespace Accounts

variable {history : List (SetCall K T)}

theorem size_eq
    (accounts : Accounts history set) :
    set.size = (SetCall.constraints history).length := by
  simp [size, accounts.members_eq, flagged]

/-- An accepted call is one more call to account for. -/
theorem concat
    (accounts : Accounts history set)
    {call : SetCall K T}
    (isAccepted : set.attempt call = .ok (after, change)) :
    Accounts (history ++ [call]) after := by
  cases call with
  | add constraint =>
      obtain ⟨_, rfl, _⟩ := attempt_add_eq_ok_iff.mp isAccepted
      constructor
      · have fresh :
            SetCall.lastFlag history
                (SetCall.constraints history).length =
              true :=
          accounts.enabled_beyond (Nat.le_of_eq accounts.size_eq)
        simp [accounts.members_eq, flagged, fresh]
      · intro index beyond
        have largerSize : set.size + 1 ≤ index := by
          simpa [size] using beyond
        simpa using accounts.enabled_beyond (Nat.le_of_succ_le largerSize)
  | setEnabled switched enabled =>
      obtain ⟨member, found, rfl, _⟩ :=
        attempt_setEnabled_eq_ok_iff.mp isAccepted
      have inside : switched < set.size :=
        (List.getElem?_eq_some_iff.mp found).1
      constructor
      · have constraintFound :
            (SetCall.constraints history)[switched]? =
              some member.constraint := by
          rw [accounts.members_eq, getElem?_flagged] at found
          obtain ⟨constraint, constraintFound, rfl⟩ :=
            Option.map_eq_some_iff.mp found
          exact constraintFound
        apply List.ext_getElem?
        intro index
        by_cases same : switched = index
        · subst same
          have room : switched < set.members.length := inside
          simp [constraintFound, room]
        · simp [same, accounts.members_eq]
      · intro index beyond
        have sameSize : set.size ≤ index := by
          simpa [size] using beyond
        have other : switched ≠ index := by omega
        simpa [other] using accounts.enabled_beyond sameSize

end Accounts

end ConstraintSet

end Linkage
