import CompiledModule.Proofs.Layout.Conversion
import CompiledModule.Proofs.Safety.Guarded

namespace CompiledModule

/-!
# Layouts that ask before every operation

Sums and products of sizes are checked by the code itself, and so are the bounds of a run.  What is
not checked rests on a check that has been made before: the slot of a space's size is looked up once
the space has been found, the depth of nesting grows only below its limit, and a run is cut out of
its block after it has been found to end inside.
-/

namespace Guarded

/-! ## Sizes of types -/

def typeSize (structSize : UInt32 → Guarded LayoutError SizeCache Nat) (type : TypeDescriptor) :
    Guarded LayoutError SizeCache Nat := do
  match ← plain (settle type.extent) with
  | .scalars width count => plain (settle (sizeProduct width count))
  | .structs space count =>
    let size ← structSize space
    if size = 0 ∨ count = 0 then return 0
    plain (settle (sizeProduct size count))

def membersSize (structSize : UInt32 → Guarded LayoutError SizeCache Nat) :
    (total : Nat) → VariableSpace → Guarded LayoutError SizeCache Nat
  | total, [] => pure total
  | total, member :: rest => do
    let size ← typeSize structSize member.type
    let next ← plain (settle (sizeSum total size))
    membersSize structSize next rest

/-- The size of one struct at a depth of nesting.  The sizes are kept in as many slots as there are
spaces. -/
def structSize (spaces : List VariableSpace) (depth : Nat) (opened : List UInt32)
    (space : UInt32) : Guarded LayoutError SizeCache Nat :=
  if nestingLimit ≤ depth then throw (.error (.structTooDeep nestingLimit))
  else do
    let members ← plain (settle (membersOf spaces space))
    settle (demand (space.toNat < spaces.length))
    match (← get).lookup space with
    | some size => return size
    | none =>
      if space ∈ opened then
        throw (.error (.structTooDeep nestingLimit))
      settle (demand (depth + 1 < sizeLimit))
      let size ← membersSize (fun inner => structSize spaces (depth + 1) (space :: opened) inner) 0
        members
      modify ((space, size) :: ·)
      return size
termination_by nestingLimit - depth

/-! ## Walks -/

def measuring (action : Guarded LayoutError SizeCache α) : Guarded LayoutError (Walked σ) α :=
  fun ⟨sizes, state⟩ =>
    match action sizes with
    | .ok value sizes => .ok value ⟨sizes, state⟩
    | .error halt sizes => .error halt ⟨sizes, state⟩

def showing (visit : Guarded LayoutError σ Unit) : Guarded LayoutError (Walked σ) Unit :=
  fun ⟨sizes, state⟩ =>
    match visit state with
    | .ok () state => .ok () ⟨sizes, state⟩
    | .error halt state => .error halt ⟨sizes, state⟩

/-- Visits a run of scalars.  The bytes to be reversed are cut out of the block. -/
def visit (offset width count : Nat) : Guarded LayoutError BlockEditor Unit := do
  let editor ← get
  let length ← plain (settle (editor.runLength offset width count))
  if editor.swap then
    let _ ← settle (slice editor.bytes.toList offset (offset + length))
  set (editor.accept offset width length)

def members (value : (offset : Nat) → TypeDescriptor → Guarded LayoutError (Walked σ) Nat)
    (base : Nat) : VariableSpace → Guarded LayoutError (Walked σ) Unit
  | [] => pure ()
  | member :: rest => do
    let offset ← plain (settle (sizeSum base member.offset.toNat))
    let _ ← value offset member.type
    members value base rest

def instances (struct : (base : Nat) → Guarded LayoutError (Walked σ) Unit) (size : Nat) :
    (count base : Nat) → Guarded LayoutError (Walked σ) Unit
  | 0, _ => pure ()
  | count + 1, base => do
    struct base
    let next ← plain (settle (sizeSum base size))
    instances struct size count next

def value (spaces : List VariableSpace) (depth offset : Nat) (type : TypeDescriptor) :
    Guarded LayoutError (Walked BlockEditor) Nat := do
  match ← plain (settle type.extent) with
  | .scalars width count =>
    showing (visit offset width count)
    plain (settle (sizeProduct width count))
  | .structs space count =>
    if nestingLimit ≤ depth then throw (.error (.structTooDeep nestingLimit))
    else
      let size ← measuring (structSize spaces depth [] space)
      if size = 0 ∨ count = 0 then
        return 0
      let total ← plain (settle (sizeProduct size count))
      showing (plain (BlockEditor.checkSpan offset total))
      let parts ← plain (settle (membersOf spaces space))
      settle (demand (depth + 1 < sizeLimit))
      let inner := fun offset type => value spaces (depth + 1) offset type
      instances (fun base => members inner base parts) size count offset
      return total
termination_by nestingLimit - depth

def block (spaces : List VariableSpace) :
    List Variable → Guarded LayoutError (Walked BlockEditor) Unit
  | [] => pure ()
  | record :: rest => do
    let _ ← value spaces 0 record.offset.toNat record.type
    block spaces rest

def normalizeBlock (spaces : List VariableSpace) (vars : List Variable) (swap : Bool) :
    Guarded LayoutError Workspace Unit := fun workspace =>
  match block spaces vars ⟨workspace.sizes, .ofBlock workspace.bytes swap⟩ with
  | .ok () walked => .ok () ⟨walked.sizes, walked.state.bytes.toList⟩
  | .error halt walked => .error halt ⟨walked.sizes, walked.state.bytes.toList⟩

def normalize (pass : Pass) (spaces : List VariableSpace) (phase : Phase) (block : DataBlock)
    (vars : List Variable) (workspace : Workspace) : Guarded LoadError Reader Workspace :=
  fun reader =>
    let walked (swap : Bool) : EStateM.Result (Halt LoadError) Reader Workspace :=
      match normalizeBlock spaces vars swap workspace with
      | .ok () edited => .ok edited reader
      | .error .panic _ => .error .panic reader
      | .error (.error error) _ => .error (.error (.inBlock phase block (.layout error))) reader
    match pass with
    | .skip => .ok workspace reader
    | .check => walked false
    | .swap => walked true

/-! ## Agreement -/

variable {spaces : List VariableSpace} {σ : Type}

theorem typeSize_agrees {guarded : UInt32 → Guarded LayoutError SizeCache Nat}
    {measure : UInt32 → Measure Nat}
    (structs : ∀ space, Agrees Unrestricted Unrestricted (guarded space) (measure space))
    (type : TypeDescriptor) :
    Agrees Unrestricted Unrestricted (typeSize guarded type)
      (CompiledModule.typeSize measure type) := by
  apply (Agrees.outcome _).bind
  intro extent _
  cases extent with
  | scalars width count => exact Agrees.checked _
  | structs space count =>
    apply (structs space).bind
    intro size _
    by_cases empty : size = 0 ∨ count = 0
    · simp only [if_pos empty]
      exact Agrees.pure trivial
    · simp only [if_neg empty]
      exact Agrees.checked _

theorem membersSize_agrees {guarded : UInt32 → Guarded LayoutError SizeCache Nat}
    {measure : UInt32 → Measure Nat}
    (structs : ∀ space, Agrees Unrestricted Unrestricted (guarded space) (measure space))
    (total : Nat) (parts : VariableSpace) :
    Agrees Unrestricted Unrestricted (membersSize guarded total parts)
      (CompiledModule.membersSize measure total parts) := by
  induction parts generalizing total with
  | nil => exact Agrees.pure trivial
  | cons part rest ih =>
    apply (typeSize_agrees structs part.type).bind
    intro size _
    apply (Agrees.outcome _).bind
    intro next _
    exact ih next

theorem inside_of_membersOf {space : UInt32} {parts : VariableSpace}
    (available : membersOf spaces space = .ok parts) : space.toNat < spaces.length := by
  unfold membersOf at available
  split at available
  · exact (List.getElem?_eq_some_iff.mp ‹_›).1
  · cases available

theorem depth_countable {levels depth : Nat} (deep : depth + (levels + 1) = nestingLimit) :
    depth + 1 < sizeLimit := by
  simp only [nestingLimit] at deep
  simp only [sizeLimit]
  omega

/-- The levels count down while the depth counts up to the limit. -/
theorem structSize_agrees {levels depth : Nat} (deep : depth + levels = nestingLimit)
    (opened : List UInt32) (space : UInt32) :
    Agrees Unrestricted Unrestricted (structSize spaces depth opened space)
      (CompiledModule.structSize spaces levels opened space) := by
  induction levels generalizing depth opened space with
  | zero =>
    rw [structSize, if_pos (by omega)]
    exact Agrees.throw _
  | succ levels ih =>
    have countable := depth_countable deep
    rw [structSize, if_neg (by omega)]
    apply (Agrees.outcome _).bind
    intro parts available
    apply Agrees.settle_bind (demand_eq (inside_of_membersOf available))
    apply Agrees.get_bind
    intro sizes _
    cases sizes.lookup space with
    | some size => exact Agrees.pure trivial
    | none =>
      by_cases circular : space ∈ opened
      · simp only [if_pos circular]
        exact Agrees.throw _
      · simp only [if_neg circular]
        apply Agrees.settle_bind (demand_eq countable)
        apply (membersSize_agrees (ih (by omega) (space :: opened)) 0 parts).bind
        intro size _
        apply (Agrees.modify fun _ _ => trivial).bind
        intro _ _
        exact Agrees.pure trivial

/-! ## Agreement of walks -/

theorem settle_agrees (outcome : Except LayoutError α) :
    Agrees Unrestricted (fun value => outcome = .ok value) (plain (settle outcome))
      (Walk.settle outcome : Walk LayoutError σ α) := by
  cases outcome with
  | ok value => exact Agrees.pure rfl
  | error error => exact Agrees.throw error

theorem measuring_agrees {guarded : Guarded LayoutError SizeCache α} {measure : Measure α}
    (agrees : Agrees Unrestricted Unrestricted guarded measure) :
    Agrees Unrestricted Unrestricted (measuring guarded)
      (Walk.measuring measure : Walk LayoutError σ α) := by
  rintro ⟨sizes, state⟩ _ ⟨rfl, -⟩
  simp only [measuring, Walk.measuring, plain, EStateM.adaptExcept, agrees.run_eq trivial]
  cases measure sizes with
  | ok value after => exact ⟨⟨rfl, trivial⟩, rfl, trivial⟩
  | error error after => exact Or.inl ⟨rfl, rfl, trivial⟩

theorem showing_agrees {guarded : Guarded LayoutError σ Unit}
    {visit : EStateM LayoutError σ Unit}
    (agrees : Agrees Unrestricted Unrestricted guarded visit) :
    Agrees Unrestricted Unrestricted (showing guarded) (Walk.showing visit) := by
  rintro ⟨sizes, state⟩ _ ⟨rfl, -⟩
  simp only [showing, Walk.showing, plain, EStateM.adaptExcept, agrees.run_eq trivial]
  cases visit state with
  | ok _ after => exact ⟨⟨trivial, trivial⟩, rfl, trivial⟩
  | error error after => exact Or.inl ⟨rfl, rfl, trivial⟩

theorem visit_eq (offset width count : Nat) :
    BlockEditor.visit offset width count =
      (get >>= fun editor => settle (editor.runLength offset width count) >>= fun length =>
        set (editor.accept offset width length)) := by
  funext editor
  unfold BlockEditor.visit
  change _ = EStateM.bind (settle (editor.runLength offset width count)) _ editor
  unfold EStateM.bind
  cases editor.runLength offset width count <;> rfl

/-- A run that is accepted ends inside the block, so that it can be cut out. -/
theorem visit_agrees (offset width count : Nat) :
    Agrees Unrestricted Unrestricted (visit offset width count)
      (BlockEditor.visit offset width count) := by
  rw [visit_eq]
  apply Agrees.get_bind
  intro editor _
  apply (Agrees.outcome _).bind
  intro length accepted
  rcases BlockEditor.runLength_eq_ok.mp accepted with ⟨-, -, inside, -⟩
  have cut : offset ≤ offset + length ∧ offset + length ≤ editor.bytes.toList.length :=
    ⟨Nat.le_add_right offset length, inside⟩
  by_cases swaps : editor.swap = true
  · simp only [if_pos swaps]
    apply Agrees.settle_bind (slice_eq cut)
    exact Agrees.set trivial
  · simp only [if_neg swaps]
    exact Agrees.set trivial

theorem checkSpan_agrees (offset length : Nat) :
    Agrees Unrestricted Unrestricted (plain (BlockEditor.checkSpan offset length))
      (BlockEditor.checkSpan offset length) := by
  apply Agrees.plain
  intro editor _
  cases BlockEditor.checkSpan offset length editor with
  | ok _ after => exact ⟨trivial, trivial⟩
  | error error after => trivial

theorem members_agrees {guarded : Nat → TypeDescriptor → Guarded LayoutError (Walked σ) Nat}
    {walk : Nat → TypeDescriptor → Walk LayoutError σ Nat}
    (values : ∀ offset type, Agrees Unrestricted Unrestricted (guarded offset type)
      (walk offset type)) (base : Nat) (parts : VariableSpace) :
    Agrees Unrestricted Unrestricted (members guarded base parts)
      (Walk.members walk base parts) := by
  induction parts with
  | nil => exact Agrees.pure trivial
  | cons part rest ih =>
    apply (settle_agrees _).bind
    intro offset _
    apply (values offset part.type).bind
    intro _ _
    exact ih

theorem instances_agrees {guarded : Nat → Guarded LayoutError (Walked σ) Unit}
    {walk : Nat → Walk LayoutError σ Unit}
    (structs : ∀ base, Agrees Unrestricted Unrestricted (guarded base) (walk base))
    (size count base : Nat) :
    Agrees Unrestricted Unrestricted (instances guarded size count base)
      (Walk.instances walk size count base) := by
  induction count generalizing base with
  | zero => exact Agrees.pure trivial
  | succ count ih =>
    apply (structs base).bind
    intro _ _
    apply (settle_agrees _).bind
    intro next _
    exact ih next

theorem scalars_agrees (offset width count : Nat) :
    Agrees Unrestricted Unrestricted
      (showing (visit offset width count) >>= fun _ => plain (settle (sizeProduct width count)))
      (Walk.showing (BlockEditor.visit offset width count) >>= fun _ =>
        Walk.settle (sizeProduct width count)) := by
  apply (showing_agrees (visit_agrees offset width count)).bind
  intro _ _
  exact (settle_agrees _).weaken fun _ _ => trivial

/-- The levels count down here too, and the limit is asked for only at a struct. -/
theorem value_agrees {levels depth : Nat} (deep : depth + levels = nestingLimit) (offset : Nat)
    (type : TypeDescriptor) :
    Agrees Unrestricted Unrestricted (value spaces depth offset type)
      (Walk.value spaces BlockEditor.visitor levels offset type) := by
  induction levels generalizing depth offset type with
  | zero =>
    rw [value, Walk.value]
    apply (settle_agrees _).bind
    intro extent _
    cases extent with
    | scalars width count => exact scalars_agrees offset width count
    | structs space count =>
      change Agrees _ _ (if nestingLimit ≤ depth then _ else _) _
      rw [if_pos (by omega)]
      exact Agrees.throw _
  | succ levels ih =>
    have countable := depth_countable deep
    have shallow : ¬ nestingLimit ≤ depth := by omega
    rw [value, Walk.value]
    apply (settle_agrees _).bind
    intro extent _
    cases extent with
    | scalars width count => exact scalars_agrees offset width count
    | structs space count =>
      change Agrees _ _ (if nestingLimit ≤ depth then _ else _) _
      rw [if_neg shallow]
      apply (measuring_agrees (structSize_agrees deep [] space)).bind
      intro size _
      by_cases empty : size = 0 ∨ count = 0
      · simp only [if_pos empty]
        exact Agrees.pure trivial
      simp only [if_neg empty]
      apply (settle_agrees _).bind
      intro total _
      have enters : BlockEditor.visitor.entersStructs = true := rfl
      simp only [if_pos enters]
      apply (showing_agrees (checkSpan_agrees offset total)).bind
      intro _ _
      apply (settle_agrees _).bind
      intro parts _
      apply Agrees.settle_bind (demand_eq countable)
      have deeper : depth + 1 + levels = nestingLimit := by omega
      have partsAgree := fun base => members_agrees (ih deeper) base parts
      apply (instances_agrees partsAgree size count offset).bind
      intro _ _
      exact Agrees.pure trivial

theorem block_agrees (vars : List Variable) :
    Agrees Unrestricted Unrestricted (block spaces vars)
      (Walk.block spaces BlockEditor.visitor vars) := by
  induction vars with
  | nil => exact Agrees.pure trivial
  | cons record rest ih =>
    apply (value_agrees (Nat.zero_add nestingLimit) record.offset.toNat record.type).bind
    intro _ _
    exact ih

theorem normalizeBlock_eq (vars : List Variable) (swap : Bool) (workspace : Workspace) :
    normalizeBlock spaces vars swap workspace =
      plain (Workspace.normalizeBlock spaces vars swap) workspace := by
  simp only [normalizeBlock, Workspace.normalizeBlock, Workspace.edit, plain, EStateM.adaptExcept,
    (block_agrees vars).run_eq trivial]
  cases Walk.block spaces BlockEditor.visitor vars
    ⟨workspace.sizes, .ofBlock workspace.bytes swap⟩ <;> rfl

/-- A pass over a block does not touch the reader. -/
theorem normalize_agrees {valid : Reader → Prop} (pass : Pass) (phase : Phase) (block : DataBlock)
    (vars : List Variable) (workspace : Workspace) :
    Agrees valid Unrestricted (normalize pass spaces phase block vars workspace)
      (Load.normalize pass spaces phase block vars workspace) := by
  rintro reader _ ⟨rfl, inOrder⟩
  cases pass with
  | skip => exact ⟨⟨rfl, trivial⟩, rfl, inOrder⟩
  | check | swap =>
    simp only [normalize, normalizeBlock_eq, plain, EStateM.adaptExcept, Load.normalize, Pass.run]
    cases Workspace.normalizeBlock spaces vars _ workspace with
    | ok _ edited => exact ⟨⟨rfl, trivial⟩, rfl, inOrder⟩
    | error error _ => exact Or.inl ⟨rfl, rfl, inOrder⟩

end Guarded

end CompiledModule
