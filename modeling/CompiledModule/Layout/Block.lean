import CompiledModule.Layout.Walk
import CompiledModule.Reader

namespace CompiledModule

/-!
# Data blocks

A block of data is a run of bytes whose scalars are described by a table of variables.  A module
stores every scalar with its least significant byte first.  For a host of the other order each
scalar of a block has to be reversed; for a host of the same order the variables may still be
checked against the block.

Both are walks with an editor as the visitor.  The editor refuses a run that reaches past the
block, and it refuses to see more bytes than four times the block, whatever the variables say.
Variables may overlap, and without that limit a small block could keep a walk busy for ever.
-/

/-- A block that is being walked: its bytes, whether scalars are reversed, and how many more bytes
may be visited. -/
structure BlockEditor where
  bytes : Array UInt8
  swap : Bool
  budget : Nat
  deriving DecidableEq, Repr

/-- The bytes of a block, with others written over them from `offset` on. -/
def overwrite : (block : Array UInt8) → (offset : Nat) → List UInt8 → Array UInt8
  | block, _, [] => block
  | block, offset, byte :: rest => overwrite (block.setIfInBounds offset byte) (offset + 1) rest

theorem size_overwrite (block : Array UInt8) (offset : Nat) (bytes : List UInt8) :
    (overwrite block offset bytes).size = block.size := by
  induction bytes generalizing block offset with
  | nil => rfl
  | cons byte rest ih => rw [overwrite, ih, Array.size_setIfInBounds]

theorem toList_overwrite (block : Array UInt8) (offset : Nat) (bytes : List UInt8)
    (fits : offset + bytes.length ≤ block.size) :
    (overwrite block offset bytes).toList =
      block.toList.take offset ++ bytes ++ block.toList.drop (offset + bytes.length) := by
  induction bytes generalizing block offset with
  | nil => simp [overwrite]
  | cons byte rest ih =>
    rw [List.length_cons] at fits
    have inside : offset < block.toList.length := by rw [Array.length_toList]; omega
    have restFits : offset + 1 + rest.length ≤ (block.setIfInBounds offset byte).size := by
      rw [Array.size_setIfInBounds]; omega
    rw [overwrite, ih _ _ restFits, Array.toList_setIfInBounds, List.length_cons,
      List.drop_set_of_lt (by omega), List.take_add_one, List.take_set_of_le (Nat.le_refl _),
      List.getElem?_set_self inside, Option.toList_some, Nat.add_right_comm, Nat.add_assoc]
    simp

namespace BlockEditor

/-- How many bytes a walk may visit for each byte of the block. -/
def visitsPerByte : Nat := 4

def wholeBudget (length : Nat) : Nat :=
  saturated (length * visitsPerByte)

/-- An editor that has visited nothing. -/
def ofBlock (bytes : List UInt8) (swap : Bool) : BlockEditor :=
  ⟨bytes.toArray, swap, wholeBudget bytes.length⟩

/-- Where `length` bytes from `offset` on end, if that is inside the block. -/
def finish (editor : BlockEditor) (offset length : Nat) : Except LayoutError Nat := do
  let finish ← sizeSum offset length
  if finish ≤ editor.bytes.size then
    return finish
  else
    throw (.overrun offset length editor.bytes.size)

/-- The length of a run of scalars, which has to lie inside the block and inside the budget. -/
def runLength (editor : BlockEditor) (offset width count : Nat) : Except LayoutError Nat := do
  let length ← sizeProduct width count
  let _ ← editor.finish offset length
  if editor.budget < length then
    throw (.tooComplex (wholeBudget editor.bytes.size))
  return length

def reversed (bytes : Array UInt8) (offset width length : Nat) : Array UInt8 :=
  let run := (bytes.extract offset (offset + length)).toList
  overwrite bytes offset (reverseElements width run)

def accept (offset width length : Nat) : BlockEditor → BlockEditor
  | ⟨bytes, true, budget⟩ => ⟨reversed bytes offset width length, true, budget - length⟩
  | ⟨bytes, false, budget⟩ => ⟨bytes, false, budget - length⟩

/-- Visits a run of scalars.  A run that is refused leaves the editor as it was. -/
def visit (offset width count : Nat) : EStateM LayoutError BlockEditor Unit := fun editor =>
  match editor.runLength offset width count with
  | .ok length => .ok () (editor.accept offset width length)
  | .error error => .error error editor

/-- Sees the span of a run of structs, which has to lie inside the block. -/
def checkSpan (offset length : Nat) : EStateM LayoutError BlockEditor Unit := fun editor =>
  match editor.finish offset length with
  | .ok _ => .ok () editor
  | .error error => .error error editor

def visitor : Visitor LayoutError BlockEditor where
  entersStructs := true
  visit := visit
  checkSpan := checkSpan

end BlockEditor

/-! ## Walking a block -/

/-- A block together with the sizes found so far.  Sizes are shared by all blocks of a module. -/
structure Workspace where
  sizes : SizeCache
  bytes : List UInt8
  deriving DecidableEq, Repr

/-- An action on a block.  What it has edited stays edited when it fails. -/
abbrev BlockAction := EStateM LayoutError Workspace

namespace Workspace

def edit (swap : Bool) (walk : Walk LayoutError BlockEditor α) : BlockAction α := fun workspace =>
  match walk ⟨workspace.sizes, .ofBlock workspace.bytes swap⟩ with
  | .ok value walked => .ok value ⟨walked.sizes, walked.state.bytes.toList⟩
  | .error error walked => .error error ⟨walked.sizes, walked.state.bytes.toList⟩

/-- Walks one value of the block and gives its size. -/
def normalize (spaces : List VariableSpace) (offset : Nat) (type : TypeDescriptor)
    (swap : Bool) : BlockAction Nat :=
  edit swap (Walk.value spaces BlockEditor.visitor nestingLimit offset type)

def normalizeBlock (spaces : List VariableSpace) (vars : List Variable) (swap : Bool) :
    BlockAction Unit :=
  edit swap (Walk.block spaces BlockEditor.visitor vars)

/-- The size of a type, with the block left alone. -/
def measure (spaces : List VariableSpace) (type : TypeDescriptor) : BlockAction Nat :=
  fun workspace =>
    match CompiledModule.measure spaces type workspace.sizes with
    | .ok size sizes => .ok size { workspace with sizes }
    | .error error sizes => .error error { workspace with sizes }

end Workspace

/-! ## Passes -/

/-- What is done to the blocks of a module. -/
inductive Pass where
  /-- Nothing. -/
  | skip
  /-- The variables are checked against the block. -/
  | check
  /-- They are checked, and every scalar is reversed. -/
  | swap
  deriving DecidableEq, Repr

namespace Pass

/-- The pass that a host needs: blocks are always converted to its order, and `verify` only says
whether they are checked when there is nothing to convert. -/
def forHost (host : ByteOrder) (verify : Bool) : Pass :=
  if host.differs .file then swap
  else if verify then check
  else skip

/-- Runs a pass over a block.  An error names the block and the phase it belongs to. -/
def run (pass : Pass) (spaces : List VariableSpace) (phase : Phase) (block : DataBlock)
    (vars : List Variable) : EStateM LoadError Workspace Unit :=
  let placed (action : BlockAction Unit) : EStateM LoadError Workspace Unit :=
    action.adaptExcept fun error => .inBlock phase block (.layout error)
  match pass with
  | skip => pure ()
  | check => placed (Workspace.normalizeBlock spaces vars false)
  | swap => placed (Workspace.normalizeBlock spaces vars true)

end Pass

def Load.normalize (pass : Pass) (spaces : List VariableSpace) (phase : Phase)
    (block : DataBlock) (vars : List Variable) (workspace : Workspace) :
    Load Workspace := fun reader =>
  match pass.run spaces phase block vars workspace with
  | .ok () edited => .ok edited reader
  | .error error _ => .error error reader

end CompiledModule
