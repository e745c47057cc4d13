import CompiledModule.Proofs.Layout.ExactSize
import CompiledModule.Proofs.Layout.Shown
import Mathlib.Tactic.Choose

namespace CompiledModule

/-!
# What a type expands to

A value at an offset consists of runs of scalars, whether or not anybody walks it.  A chain that
ends in a scalar is one run, of as many scalars as its arrays have elements together.  A run of
structs is what its members are, one struct after the other and in each struct one member after the
other in the order of the member table; in front of them stands the span of the whole run.  Structs
that have no bytes, or of which there are none, are nothing at all.

`Expands` states this without walking: there is no limit of nesting, no limit of 64 bits and nobody
who refuses to go on.  A type has an expansion exactly when it has a size, it has only one at each
offset, and the runs of an expansion have as many bytes together as the size says.
-/

def WalkEvent.finish : WalkEvent → Nat
  | .run offset width count => offset + width * count
  | .span offset length => offset + length

/-- What the members of a struct expand to that begins at `base`. -/
def memberEvents (inner : (offset : Nat) → TypeDescriptor → List WalkEvent)
    (parts : VariableSpace) (base : Nat) : List WalkEvent :=
  parts.flatMap fun part => inner (base + part.offset.toNat) part.type

/-- What `count` structs of `size` bytes expand to. -/
def instanceEvents (inner : (offset : Nat) → TypeDescriptor → List WalkEvent)
    (parts : VariableSpace) (size count offset : Nat) : List WalkEvent :=
  (List.range count).flatMap fun number => memberEvents inner parts (offset + number * size)

/-- The runs and spans of a value at an offset, in order. -/
inductive Expands (spaces : List VariableSpace) :
    (offset : Nat) → TypeDescriptor → List WalkEvent → Prop
  | scalars {offset : Nat} {type : TypeDescriptor} {kind : Scalar}
    (ends : type.element? = some (.scalar kind)) :
    Expands spaces offset type [.run offset kind.width type.elementCount]
  | nothing {offset : Nat} {type : TypeDescriptor} (ends : type.element? = some .struct)
    (empty : HasSize spaces type 0) : Expands spaces offset type []
  | structs {offset size : Nat} {type : TypeDescriptor} {parts : VariableSpace}
    (inner : Nat → TypeDescriptor → List WalkEvent) (ends : type.element? = some .struct)
    (available : spaces[type.members.toNat]? = some parts)
    (one : HasSize spaces (.ofSpace type.members) size) (filled : 0 < type.elementCount * size)
    (members : ∀ number < type.elementCount, ∀ part ∈ parts,
      Expands spaces (offset + number * size + part.offset.toNat) part.type
        (inner (offset + number * size + part.offset.toNat) part.type)) :
    Expands spaces offset type
      (.span offset (type.elementCount * size) ::
        instanceEvents inner parts size type.elementCount offset)

/-- A struct occurs `depth` levels inside the type, where only the members of structs that have
bytes are looked at. -/
inductive Meets (spaces : List VariableSpace) : TypeDescriptor → (depth : Nat) → Prop
  | here {type : TypeDescriptor} (ends : type.element? = some .struct) : Meets spaces type 0
  | inside {type part : TypeDescriptor} {size depth : Nat} (has : HasSize spaces type size)
    (filled : 0 < size) (contains : Contains spaces type part) (deeper : Meets spaces part depth) :
    Meets spaces type (depth + 1)

section Expands

variable {spaces : List VariableSpace} {type : TypeDescriptor} {offset size one : Nat}
  {events others : List WalkEvent}

/-! ## One expansion for each size -/

/-- Structs are as large as one of them times their number. -/
theorem HasSize.eq_mul (has : HasSize spaces type size) (ends : type.element? = some .struct)
    (single : HasSize spaces (.ofSpace type.members) one) : size = type.elementCount * one := by
  cases has with
  | scalars ends' =>
    rw [ends] at ends'
    cases ends'
  | structs sizes _ available members =>
    rw [single.unique (HasSize.ofSpace sizes available members)]

theorem instanceEvents_congr {inner other : Nat → TypeDescriptor → List WalkEvent}
    {parts : VariableSpace} {count : Nat}
    (same : ∀ number < count, ∀ part ∈ parts,
      inner (offset + number * size + part.offset.toNat) part.type =
        other (offset + number * size + part.offset.toNat) part.type) :
    instanceEvents inner parts size count offset =
      instanceEvents other parts size count offset := by
  unfold instanceEvents memberEvents
  apply List.flatMap_congr
  intro number member
  apply List.flatMap_congr
  intro part among
  exact same number (List.mem_range.mp member) part among

theorem Expands.unique (expands : Expands spaces offset type events)
    (again : Expands spaces offset type others) : events = others := by
  induction expands generalizing others with
  | scalars ends =>
    cases again with
    | scalars ends' =>
      rw [ends] at ends'
      cases ends'
      rfl
    | nothing ends' _ =>
      rw [ends] at ends'
      cases ends'
    | structs _ ends' =>
      rw [ends] at ends'
      cases ends'
  | nothing ends empty =>
    cases again with
    | scalars ends' =>
      rw [ends] at ends'
      cases ends'
    | nothing _ _ => rfl
    | structs _ _ _ single filled _ => exact absurd (empty.eq_mul ends single) (Nat.ne_of_lt filled)
  | structs inner ends available single filled _ ih =>
    cases again with
    | scalars ends' =>
      rw [ends] at ends'
      cases ends'
    | nothing _ empty => exact absurd (empty.eq_mul ends single) (Nat.ne_of_lt filled)
    | structs inner' _ available' single' _ members' =>
      rw [available] at available'
      cases available'
      cases single.unique single'
      congr 1
      apply instanceEvents_congr
      intro number below part member
      exact ih number below part member (members' number below part member)

/-- What has a size has an expansion at every offset. -/
theorem HasSize.exists_expands (has : HasSize spaces type size) (offset : Nat) :
    ∃ events, Expands spaces offset type events := by
  induction has generalizing offset with
  | scalars ends => exact ⟨_, .scalars ends⟩
  | @structs type parts sizes ends available members ih =>
    have whole := HasSize.structs sizes ends available members
    have single := HasSize.ofSpace sizes available members
    by_cases empty : type.elementCount * (parts.map fun part => sizes part.type).sum = 0
    · rw [empty] at whole
      exact ⟨[], .nothing ends whole⟩
    · -- At each offset the expansion of a member is chosen, and nothing for any other type.
      have chosen : ∀ place inner, ∃ events, (∃ some, Expands spaces place inner some) →
          Expands spaces place inner events := by
        intro place inner
        by_cases expands : ∃ some, Expands spaces place inner some
        · rcases expands with ⟨events, expands⟩
          exact ⟨events, fun _ => expands⟩
        · exact ⟨[], fun impossible => absurd impossible expands⟩
      choose inner expands using chosen
      refine ⟨_, .structs inner ends available single (Nat.pos_of_ne_zero empty) ?_⟩
      intro number _ part member
      exact expands _ _ (ih part member _)

theorem Expands.exists_hasSize (expands : Expands spaces offset type events) :
    ∃ size, HasSize spaces type size := by
  cases expands with
  | scalars ends => exact ⟨_, .scalars ends⟩
  | nothing _ empty => exact ⟨0, empty⟩
  | structs inner ends available single filled members =>
    cases single with
    | scalars ends' => cases ends'
    | structs sizes _ available' has =>
      exact ⟨_, .structs sizes ends available' has⟩

/-! ## How much is shown -/

/-- How many bytes the runs of an expansion have together. -/
def shownBytes (events : List WalkEvent) : Nat :=
  ((runsOf events).map ScalarRun.length).sum

@[simp] theorem shownBytes_nil : shownBytes [] = 0 := rfl

@[simp] theorem shownBytes_run (offset width count : Nat) (rest : List WalkEvent) :
    shownBytes (.run offset width count :: rest) = width * count + shownBytes rest := by
  simp [shownBytes, runsOf, ScalarRun.length]

@[simp] theorem shownBytes_span (offset length : Nat) (rest : List WalkEvent) :
    shownBytes (.span offset length :: rest) = shownBytes rest := by
  simp [shownBytes, runsOf]

theorem shownBytes_append (events rest : List WalkEvent) :
    shownBytes (events ++ rest) = shownBytes events + shownBytes rest := by
  simp [shownBytes, runsOf]

theorem shownBytes_flatMap (pieces : α → List WalkEvent) (entries : List α) :
    shownBytes (entries.flatMap pieces) =
      (entries.map fun entry => shownBytes (pieces entry)).sum := by
  induction entries with
  | nil => rfl
  | cons entry rest ih =>
    rw [List.flatMap_cons, shownBytes_append, ih, List.map_cons, List.sum_cons]

/-- The runs of a value have as many bytes together as the value, also where they overlap. -/
theorem Expands.shownBytes_eq (expands : Expands spaces offset type events)
    (has : HasSize spaces type size) : shownBytes events = size := by
  induction expands generalizing size with
  | scalars ends =>
    rw [has.unique (.scalars ends), shownBytes_run, shownBytes_nil, Nat.add_zero, Nat.mul_comm]
  | nothing _ empty => exact empty.unique has
  | @structs offset one type parts inner ends available _ _ _ ih =>
    cases has with
    | scalars ends' =>
      rw [ends] at ends'
      cases ends'
    | structs sizes _ available' has =>
      rw [available] at available'
      cases available'
      have each : ∀ number ∈ List.range type.elementCount,
          shownBytes (memberEvents inner parts (offset + number * one)) =
            (parts.map fun part => sizes part.type).sum := by
        intro number member
        rw [memberEvents, shownBytes_flatMap]
        congr 1
        apply List.map_congr_left
        intro part among
        exact ih number (List.mem_range.mp member) part among (has part among)
      rw [shownBytes_span, instanceEvents, shownBytes_flatMap, List.map_congr_left each,
        List.map_const', List.sum_replicate_nat, List.length_range]

end Expands

end CompiledModule
