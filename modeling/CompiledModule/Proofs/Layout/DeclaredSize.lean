import CompiledModule.Proofs.Layout.WalkAlike

namespace CompiledModule

/-!
# Sizes without a memory

The size that spaces declare for a type is a matter of recursion alone: the members of a struct are
measured where they occur, as often as they occur, and nothing is remembered.  Only the depth of
the recursion has to be limited, since spaces may refer to each other in a circle.

The limit matters less than it seems.  With more levels the recursion comes further, and once it
has come to an end that is not the limit it comes to the same end with every greater number of
levels.  A type has that outcome as its declared one, `Settles`, and it has no other; a type that
never gets past the limit has the limit itself as its outcome.
-/

/-- What is said of structs that are nested too deep. -/
abbrev tooDeep : LayoutError := .structTooDeep nestingLimit

def declaredTypeSize (structSize : UInt32 → Except LayoutError Nat) (type : TypeDescriptor) :
    Except LayoutError Nat := do
  match ← type.extent with
  | .scalars width count => sizeProduct width count
  | .structs space count =>
    let size ← structSize space
    if size = 0 ∨ count = 0 then return 0
    sizeProduct size count

def declaredMembersSize (structSize : UInt32 → Except LayoutError Nat) :
    (total : Nat) → VariableSpace → Except LayoutError Nat
  | total, [] => pure total
  | total, member :: rest => do
    let size ← declaredTypeSize structSize member.type
    let next ← sizeSum total size
    declaredMembersSize structSize next rest

/-- The size of one struct of a space, where structs may be nested `levels` deep. -/
def declaredStructSize (spaces : List VariableSpace) :
    (levels : Nat) → (space : UInt32) → Except LayoutError Nat
  | 0, _ => .error tooDeep
  | levels + 1, space => do
    let members ← membersOf spaces space
    declaredMembersSize (declaredStructSize spaces levels) 0 members

/-- The size of a type, where structs may be nested `levels` deep. -/
def declaredSize (spaces : List VariableSpace) (type : TypeDescriptor) (levels : Nat) :
    Except LayoutError Nat :=
  declaredTypeSize (declaredStructSize spaces levels) type

/-- With sufficiently many levels the outcome is this one. -/
def Settles (outcomes : Nat → Except ε α) (outcome : Except ε α) : Prop :=
  ∃ least, ∀ levels, least ≤ levels → outcomes levels = outcome

namespace Settles

theorem const (outcome : Except ε α) : Settles (fun _ => outcome) outcome :=
  ⟨0, fun _ _ => rfl⟩

theorem unique {outcomes : Nat → Except ε α} {first second : Except ε α}
    (settles : Settles outcomes first) (again : Settles outcomes second) : first = second := by
  rcases settles with ⟨least, from'⟩
  rcases again with ⟨least', from''⟩
  rw [← from' (max least least') (Nat.le_max_left _ _),
    from'' (max least least') (Nat.le_max_right _ _)]

/-- The first level may be left out. -/
theorem of_succ {outcomes : Nat → Except ε α} {outcome : Except ε α}
    (settles : Settles (fun levels => outcomes (levels + 1)) outcome) :
    Settles outcomes outcome := by
  rcases settles with ⟨least, from'⟩
  refine ⟨least + 1, fun levels enough => ?_⟩
  have positive : levels = (levels - 1) + 1 := by omega
  rw [positive]
  exact from' (levels - 1) (by omega)

theorem bind {outcomes : Nat → Except ε α} {next : α → Nat → Except ε β} {value : α}
    {outcome : Except ε β} (first : Settles outcomes (.ok value))
    (rest : Settles (next value) outcome) :
    Settles (fun levels => outcomes levels >>= fun a => next a levels) outcome := by
  rcases first with ⟨least, from'⟩
  rcases rest with ⟨least', from''⟩
  refine ⟨max least least', fun levels enough => ?_⟩
  have valued := from' levels (Nat.le_trans (Nat.le_max_left _ _) enough)
  have ended := from'' levels (Nat.le_trans (Nat.le_max_right _ _) enough)
  change (outcomes levels >>= fun a => next a levels) = outcome
  rw [valued, ← ended]
  rfl

theorem bind_error {outcomes : Nat → Except ε α} {next : α → Nat → Except ε β} {error : ε}
    (first : Settles outcomes (.error error)) :
    Settles (fun levels => outcomes levels >>= fun a => next a levels) (.error error) := by
  rcases first with ⟨least, from'⟩
  refine ⟨least, fun levels enough => ?_⟩
  change (outcomes levels >>= fun a => next a levels) = .error error
  rw [from' levels enough]
  rfl

end Settles

end CompiledModule
