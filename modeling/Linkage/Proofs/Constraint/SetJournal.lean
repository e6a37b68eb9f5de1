import Linkage.Journal
import Linkage.Proofs.Constraint.SetRun
import Linkage.Proofs.Mechanism.Structure

namespace Linkage

/-!
# The journal of a set

Every accepted call on a set that changes something leaves one event.  Whoever
reads the events in order, and knows nothing else, knows the members of the
set: their names, how many rows they have, and which of them are enabled.
-/

variable {K T : Type}

/-- What a journal tells about a member. -/
structure MemberRecord where
  name : String
  rows : Nat
  enabled : Bool
  deriving Repr, DecidableEq

/-- What a journal should tell about a member. -/
def Member.record
    (member : Member K T) : MemberRecord where
  name := member.constraint.name
  rows := member.constraint.length
  enabled := member.enabled

/-- The flags `false, true, false, …`, so many of them. -/
def alternatingFlags
    (count : Nat) : List Bool :=
  (List.range count).map (· % 2 == 1)

/-- The next number is even if a number is not. -/
theorem even_succ (count : Nat) :
    ((count + 1) % 2 == 0) = !(count % 2 == 0) := by
  rcases Nat.mod_two_eq_zero_or_one count with even | odd
  · simp [Nat.add_mod, even]
  · simp [Nat.add_mod, odd]

/-- One more flag is `true` if there were an odd number of them. -/
theorem alternatingFlags_succ (count : Nat) :
    alternatingFlags (count + 1) =
      alternatingFlags count ++ [!(count % 2 == 0)] := by
  have parity : (count % 2 == 1) = !(count % 2 == 0) := by
    rcases Nat.mod_two_eq_zero_or_one count with even | odd
    · simp [even]
    · simp [odd]
  rw [alternatingFlags, List.range_succ, List.map_append,
    List.map_singleton, parity, alternatingFlags]

namespace Event

/--
Read one more event.  A member is added at the end, where its index says it is,
and it is enabled; a member that is toggled is there already, and has the name
that the event gives.  No other event is one of a set.
-/
def replay?
    (records : List MemberRecord) :
    Event K → Option (List MemberRecord)
  | .setChanged (.added index rows name) =>
      if index = records.length then
        some (records ++ [⟨name, rows, true⟩])
      else
        none
  | .setChanged (.toggled index name enabled) =>
      match records[index]? with
      | none => none
      | some record =>
          if record.name = name then
            some (records.set index { record with enabled })
          else
            none
  | _ => none

/-- Read events in order, knowing of no member before. -/
def replayAll?
    (events : List (Event K)) : Option (List MemberRecord) :=
  events.foldlM replay? []

/-- The index at which a member is added. -/
def addedIndex? : Event K → Option Nat
  | .setChanged (.added index _ _) => some index
  | _ => none

/-- The flag that the member at an index is given. -/
def toggledFlag?
    (index : Nat) : Event K → Option Bool
  | .setChanged (.toggled toggled _ enabled) =>
      if toggled = index then some enabled else none
  | _ => none

/-- Indices at which members are added, in order. -/
def addedIndices
    (events : List (Event K)) : List Nat :=
  events.filterMap addedIndex?

/-- Flags that the member at an index is given, in order. -/
def toggledFlags
    (events : List (Event K))
    (index : Nat) : List Bool :=
  events.filterMap (toggledFlag? index)

variable {events : List (Event K)}
variable {records : List MemberRecord}

/-- What was read before the last event is all that event needs. -/
theorem replayAll?_concat
    (read : replayAll? events = some records)
    (event : Event K) :
    replayAll? (events ++ [event]) = replay? records event := by
  unfold replayAll? at read ⊢
  rw [List.foldlM_append, read]
  simp

@[simp] theorem addedIndices_concat_added
    (events : List (Event K))
    (index rows : Nat)
    (name : String) :
    addedIndices (events ++ [.setChanged (.added index rows name)]) =
      addedIndices events ++ [index] := by
  simp [addedIndices, addedIndex?]

@[simp] theorem addedIndices_concat_toggled
    (events : List (Event K))
    (index : Nat)
    (name : String)
    (enabled : Bool) :
    addedIndices (events ++ [.setChanged (.toggled index name enabled)]) =
      addedIndices events := by
  simp [addedIndices, addedIndex?]

@[simp] theorem toggledFlags_concat_added
    (events : List (Event K))
    (index rows : Nat)
    (name : String) :
    toggledFlags (events ++ [.setChanged (.added index rows name)]) =
      toggledFlags events := by
  funext other
  simp [toggledFlags, toggledFlag?]

@[simp] theorem toggledFlags_concat_toggled
    (events : List (Event K))
    (toggled : Nat)
    (name : String)
    (enabled : Bool)
    (index : Nat) :
    toggledFlags (events ++ [.setChanged (.toggled toggled name enabled)])
        index =
      if toggled = index then
        toggledFlags events index ++ [enabled]
      else
        toggledFlags events index := by
  by_cases same : toggled = index <;>
    simp [toggledFlags, toggledFlag?, same]

end Event

namespace ConstraintSet

/-- The events of calls in order.  A refused call leaves none. -/
def journal
    (set : ConstraintSet K T) :
    List (SetCall K T) → List (Event K)
  | [] => []
  | call :: later =>
      match set.attempt call with
      | .ok (after, change) =>
          change.toList.map .setChanged ++ after.journal later
      | .error _ => set.journal later

/--
The events tell what the set has become: read in order they give its members;
members were added at indices that count up from zero; and the flags given to
each index alternate up to the one it has now.
-/
structure Journaled
    (events : List (Event K))
    (set : ConstraintSet K T) : Prop where
  replayed :
    Event.replayAll? events = some (set.members.map (·.record))
  added : Event.addedIndices events = List.range set.size
  toggled :
    ∀ index,
      Event.toggledFlags events index =
        alternatingFlags (Event.toggledFlags events index).length
  enabled :
    ∀ {index : Nat} {member : Member K T},
      set.members[index]? = some member →
      member.enabled =
        ((Event.toggledFlags events index).length % 2 == 0)
  beyond :
    ∀ {index : Nat},
      set.size ≤ index → Event.toggledFlags events index = []

namespace Journaled

variable {set after : ConstraintSet K T}
variable {events : List (Event K)}

/-- Without events there are no members. -/
theorem empty
    (model : Model K) :
    Journaled [] (ConstraintSet.empty model : ConstraintSet K T) where
  replayed := rfl
  added := rfl
  toggled _ := rfl
  enabled found := by
    cases found
  beyond _ := rfl

/-- A constraint is added at the end, where none was toggled. -/
theorem concat_added
    (journaled : Journaled events set)
    (constraint : Constraint K T) :
    Journaled
      (events ++
        [.setChanged
          (.added set.size constraint.length constraint.name)])
      { set with members := set.members ++ [⟨constraint, true⟩] } := by
  constructor
  · rw [Event.replayAll?_concat journaled.replayed]
    simp [Event.replay?, size, Member.record]
  · simp [journaled.added, size, List.range_succ]
  · intro index
    simpa using journaled.toggled index
  · intro index member found
    rw [Event.toggledFlags_concat_added]
    rcases Mechanism.earlier_or_last found with old | ⟨rfl, rfl⟩
    · exact journaled.enabled old
    · have neverToggled :
          Event.toggledFlags events set.members.length = [] :=
        journaled.beyond (Nat.le_refl set.size)
      rw [neverToggled]
      rfl
  · intro index outside
    have larger : set.size + 1 ≤ index := by
      simpa [size] using outside
    simpa using journaled.beyond (Nat.le_of_succ_le larger)

/-- A member is toggled to the flag that it does not have. -/
theorem concat_toggled
    (journaled : Journaled events set)
    {toggled : Nat}
    {member : Member K T}
    (found : set.members[toggled]? = some member)
    {enabled : Bool}
    (changes : member.enabled ≠ enabled) :
    Journaled
      (events ++
        [.setChanged
          (.toggled toggled member.constraint.name enabled)])
      { set with
        members := set.members.set toggled { member with enabled } } := by
  have inside := (List.getElem?_eq_some_iff.mp found).1
  have newFlag :
      enabled =
        !((Event.toggledFlags events toggled).length % 2 == 0) := by
    rw [← journaled.enabled found]
    exact Bool.eq_not.mpr changes.symm
  constructor
  · rw [Event.replayAll?_concat journaled.replayed]
    simp [Event.replay?, found, Member.record, List.map_set]
  · simp [journaled.added, size]
  · intro index
    rw [Event.toggledFlags_concat_toggled]
    split
    · rename_i isToggled
      subst isToggled
      rw [List.length_append, List.length_singleton,
        alternatingFlags_succ, ← journaled.toggled, ← newFlag]
    · exact journaled.toggled index
  · intro index other otherFound
    rw [Event.toggledFlags_concat_toggled]
    split
    · rename_i isToggled
      subst isToggled
      rw [List.getElem?_set_self inside] at otherFound
      cases otherFound
      rw [newFlag, List.length_append, List.length_singleton, even_succ]
    · rename_i elsewhere
      rw [List.getElem?_set_ne elsewhere] at otherFound
      exact journaled.enabled otherFound
  · intro index outside
    have sameSize : set.size ≤ index := by
      simpa [size] using outside
    have elsewhere : toggled ≠ index :=
      Nat.ne_of_lt (Nat.lt_of_lt_of_le inside sameSize)
    simpa [elsewhere] using journaled.beyond sameSize

/-- Whatever an accepted call changes is in its event. -/
theorem concat
    (journaled : Journaled events set)
    {call : SetCall K T}
    {change : Option SetChange}
    (accepted : set.attempt call = .ok (after, change)) :
    Journaled (events ++ change.toList.map .setChanged) after := by
  cases call with
  | add constraint =>
      obtain ⟨_, rfl, rfl⟩ := attempt_add_eq_ok_iff.mp accepted
      exact journaled.concat_added constraint
  | setEnabled index enabled =>
      obtain ⟨member, found, rfl, rfl⟩ :=
        attempt_setEnabled_eq_ok_iff.mp accepted
      by_cases same : member.enabled = enabled
      · subst same
        have unchanged : set.members.set index member = set.members := by
          obtain ⟨inside, rfl⟩ := List.getElem?_eq_some_iff.mp found
          exact List.set_getElem_self inside
        simpa [unchanged] using journaled
      · simpa [same] using journaled.concat_toggled found same

/-- The events of a run tell what the run has made of the set. -/
theorem run
    (journaled : Journaled events set)
    (calls : List (SetCall K T)) :
    Journaled (events ++ set.journal calls) (set.run calls) := by
  induction calls generalizing events set with
  | nil =>
      simpa [journal] using journaled
  | cons call later inductionHypothesis =>
      rw [journal, run_cons]
      cases attempted : set.attempt call with
      | error refusal =>
          rw [perform_of_error attempted]
          exact inductionHypothesis journaled
      | ok result =>
          obtain ⟨after, change⟩ := result
          rw [perform_of_ok attempted, ← List.append_assoc]
          exact inductionHypothesis (journaled.concat attempted)

end Journaled

/--
Whatever is called on a set that was empty at first, accepted or refused, its
events tell what it has become.  Read in order they give the name, the number of
rows and the flag of each member; the index of each member added is the number
of those added before; and the flags that an index is toggled to are in turn
`false`, `true`, `false`, ….
-/
theorem journal_tells_the_set
    (model : Model K)
    (calls : List (SetCall K T)) :
    let set : ConstraintSet K T := (empty model).run calls
    let events := (empty model : ConstraintSet K T).journal calls
    Event.replayAll? events = some (set.members.map (·.record)) ∧
      Event.addedIndices events =
        List.range (Event.addedIndices events).length ∧
      ∀ index,
        Event.toggledFlags events index =
          alternatingFlags (Event.toggledFlags events index).length := by
  intro set events
  have journaled : Journaled events set :=
    (Journaled.empty model).run calls
  refine ⟨journaled.replayed, ?_, journaled.toggled⟩
  rw [journaled.added, List.length_range]

end ConstraintSet

end Linkage
