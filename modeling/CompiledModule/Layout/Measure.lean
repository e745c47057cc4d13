import CompiledModule.Variable

namespace CompiledModule

/-!
# Sizes of types

The size of a type is the number of its scalars times their width, or the number of its structs
times the size of one.  A struct is as large as its members together; their offsets play no part,
so members may overlap or leave gaps.

Structs refer to each other by number and may do so in a circle, or so often that following every
path would take forever.  Each space is therefore measured once: a space that is being measured
must not be needed for its own size, structs may be nested only so deep, and a size that has been
found is kept for every later question.  A size that could not be found is not kept, so a failure
leaves nothing behind but the sizes of other spaces.
-/

/-- Structs nested this deep are taken for structs that contain themselves. -/
def nestingLimit : Nat := 32

/-- The sizes found so far, by variable space. -/
abbrev SizeCache := List (UInt32 × Nat)

/-- An action that may look up sizes and keep new ones.  What it has kept stays when it fails. -/
abbrev Measure := EStateM LayoutError SizeCache

/-- The outcome of a computation that has no state. -/
def settle : Except ε α → EStateM ε σ α
  | .ok value => pure value
  | .error error => throw error

/-- The members of a space that a type refers to. -/
def membersOf (spaces : List VariableSpace) (space : UInt32) :
    Except LayoutError VariableSpace :=
  match spaces[space.toNat]? with
  | some members => .ok members
  | none => .error (.badStructRef space spaces.length)

/-- The size of a type, given the sizes of single structs. -/
def typeSize (structSize : UInt32 → Measure Nat) (type : TypeDescriptor) : Measure Nat := do
  match ← settle type.extent with
  | .scalars width count => settle (sizeProduct width count)
  | .structs space count =>
    let size ← structSize space
    if size = 0 ∨ count = 0 then return 0
    settle (sizeProduct size count)

/-- The sizes of members, added to `total`. -/
def membersSize (structSize : UInt32 → Measure Nat) : (total : Nat) → VariableSpace → Measure Nat
  | total, [] => pure total
  | total, member :: rest => do
    let size ← typeSize structSize member.type
    let next ← settle (sizeSum total size)
    membersSize structSize next rest

/-- The size of one struct of a space, where structs may be nested `levels` deep and the spaces
`opened` are being measured. -/
def structSize (spaces : List VariableSpace) :
    (levels : Nat) → (opened : List UInt32) → (space : UInt32) → Measure Nat
  | 0, _, _ => throw (.structTooDeep nestingLimit)
  | levels + 1, opened, space => do
    let members ← settle (membersOf spaces space)
    match (← get).lookup space with
    | some size => return size
    | none =>
      if space ∈ opened then
        throw (.structTooDeep nestingLimit)
      let size ← membersSize (structSize spaces levels (space :: opened)) 0 members
      modify ((space, size) :: ·)
      return size

def measure (spaces : List VariableSpace) (type : TypeDescriptor) : Measure Nat :=
  typeSize (structSize spaces nestingLimit []) type

end CompiledModule
