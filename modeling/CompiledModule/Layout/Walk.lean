import CompiledModule.Layout.Measure

namespace CompiledModule

/-!
# Walking a value

A walk takes a value apart into runs of equal scalars and shows them to a visitor, in the order of
the links and the member tables.  Before the structs of a run are entered the visitor is shown the
whole span of the run, so that it can refuse a run that does not fit before it has seen any part
of it.  A visitor that does not enter structs is shown neither their spans nor their members; the
size of a struct is then all there is to know.

A walk ends with the size of the value, or with the first error: of the type, of an offset that is
too large, or of the visitor.  A visitor fails with errors of its own choice, as long as what is
wrong with a layout can be told among them.
-/

/-- Errors among which are those of layouts. -/
class LayoutFailure (ε : Type) where
  ofLayout : LayoutError → ε

instance : LayoutFailure LayoutError := ⟨id⟩

instance : LayoutFailure LoadError := ⟨.layout⟩

/-- What a walk does with what it meets.  A visitor leaves a state behind also when it fails. -/
structure Visitor (ε σ : Type) where
  /-- Whether the members of structs are walked. -/
  entersStructs : Bool
  /-- Sees `count` scalars of `width` bytes each. -/
  visit : (offset width count : Nat) → EStateM ε σ Unit
  /-- Sees the span of a run of structs. -/
  checkSpan : (offset length : Nat) → EStateM ε σ Unit

/-- What a walk leaves behind: the sizes it has found, and the visitor's state. -/
structure Walked (σ : Type) where
  sizes : SizeCache
  state : σ

/-- A walk, which leaves something behind also when it fails. -/
abbrev Walk (ε σ : Type) := EStateM ε (Walked σ)

namespace Walk

def showing (visit : EStateM ε σ Unit) : Walk ε σ Unit := fun ⟨sizes, state⟩ =>
  match visit state with
  | .ok () state => .ok () ⟨sizes, state⟩
  | .error error state => .error error ⟨sizes, state⟩

variable [LayoutFailure ε]

/-- The outcome of a computation with layouts that has no state. -/
def settle : Except LayoutError α → Walk ε σ α
  | .ok value => pure value
  | .error error => throw (LayoutFailure.ofLayout error)

def measuring (action : Measure α) : Walk ε σ α := fun ⟨sizes, state⟩ =>
  match action sizes with
  | .ok value sizes => .ok value ⟨sizes, state⟩
  | .error error sizes => .error (LayoutFailure.ofLayout error) ⟨sizes, state⟩

/-- Walks the members of one struct that begins at `base`. -/
def members (value : (offset : Nat) → TypeDescriptor → Walk ε σ Nat) (base : Nat) :
    VariableSpace → Walk ε σ Unit
  | [] => pure ()
  | member :: rest => do
    let offset ← settle (sizeSum base member.offset.toNat)
    let _ ← value offset member.type
    members value base rest

/-- Walks `count` structs of `size` bytes each, the first of which begins at `base`. -/
def instances (struct : (base : Nat) → Walk ε σ Unit) (size : Nat) :
    (count base : Nat) → Walk ε σ Unit
  | 0, _ => pure ()
  | count + 1, base => do
    struct base
    let next ← settle (sizeSum base size)
    instances struct size count next

/-- Walks the value of a type at an offset, where structs may be nested `levels` deep, and gives
its size. -/
def value (spaces : List VariableSpace) (visitor : Visitor ε σ) (levels offset : Nat)
    (type : TypeDescriptor) : Walk ε σ Nat := do
  match ← settle type.extent with
  | .scalars width count =>
    showing (visitor.visit offset width count)
    settle (sizeProduct width count)
  | .structs space count =>
    match levels with
    | 0 => throw (LayoutFailure.ofLayout (.structTooDeep nestingLimit))
    | below + 1 =>
      let size ← measuring (structSize spaces (below + 1) [] space)
      if size = 0 ∨ count = 0 then
        return 0
      let total ← settle (sizeProduct size count)
      unless visitor.entersStructs do
        return total
      showing (visitor.checkSpan offset total)
      let parts ← settle (membersOf spaces space)
      instances (fun base => members (value spaces visitor below) base parts) size count offset
      return total

/-- Walks the variables of a block one after another, each at its own offset. -/
def block (spaces : List VariableSpace) (visitor : Visitor ε σ) :
    List Variable → Walk ε σ Unit
  | [] => pure ()
  | record :: rest => do
    let _ ← value spaces visitor nestingLimit record.offset.toNat record.type
    block spaces visitor rest

end Walk

end CompiledModule
