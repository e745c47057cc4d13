import CompiledModule.Layout.Block
import CompiledModule.LoadedModule
import CompiledModule.Proofs.Reading.InMemory

namespace CompiledModule

/-!
# Reading one section alone

An action that is run alone has a reader of its own, opened for it and standing at the start of the
module.  `Load.alone` is what it comes to there.

In a load the same action takes over the reader as another action has left it.  `ComesTo` says that
an action ends in one way wherever in the module its reader stands, and that it leaves the reader
inside the module, in a known phase.  A placeless action comes to what it comes to alone, and
actions one after another come to their results one after another: the first error of any of them,
or all their results.  So to know what a sequence comes to, no reader has to be followed through it.
-/

namespace Load

/-- What an action comes to with a reader of its own. -/
def alone (contents : List UInt8) (base : Nat) (phase : Phase) (action : Load α) :
    Except LoadError α := do
  let reader ← Reader.open? (.ofBytes contents) base
  outcomeOf (action { reader with phase })

/-- The action ends with this result wherever in the module the reader stands.  It begins in one
phase and, if it succeeds, ends in the other one. -/
def ComesTo (contents : List UInt8) (base : Nat) (first last : Phase) (action : Load α)
    (result : Except LoadError α) : Prop :=
  ∀ reader : Reader, reader.Inside contents base first →
    outcomeOf (action reader) = result ∧
      ∀ value left, action reader = .ok value left → left.Inside contents base last

variable {contents : List UInt8} {base : Nat} {first last phase : Phase}

theorem alone_eq (inside : base ≤ contents.length) (action : Load α) :
    alone contents base phase action = outcomeOf (action (.over contents base phase 0)) := by
  unfold alone
  rw [Reader.open?_ofBytes inside]
  rfl

namespace ComesTo

theorem pure (value : α) : ComesTo contents base phase phase (pure value) (pure value) := by
  intro reader inside
  refine ⟨rfl, ?_⟩
  intro _ left ended
  cases ended
  exact inside

theorem alone (inModule : base ≤ contents.length) {action : Load α}
    (placeless : action.Placeless phase) :
    ComesTo contents base phase phase action (alone contents base phase action) := by
  intro reader inside
  have start : (Reader.over contents base phase 0).Inside contents base phase :=
    ⟨0, Nat.zero_le _, rfl⟩
  have ends := placeless contents base reader _ ⟨inside, start⟩
  constructor
  · rw [alone_eq inModule]
    exact ends.outcome_eq
  · intro value left ended
    have kindred := ends.left_behind
    rw [ended] at kindred
    exact kindred.1

/-- What a placeless action has come to in the middle of a load it comes to alone. -/
theorem alone_of_inside (inModule : base ≤ contents.length) {action : Load α} {value : α}
    {reader after : Reader} (placeless : action.Placeless phase)
    (inside : reader.Inside contents base phase) (read : action reader = .ok value after) :
    Load.alone contents base phase action = .ok value ∧ after.Inside contents base phase := by
  rcases alone inModule placeless reader inside with ⟨same, leaves⟩
  rw [read] at same
  exact ⟨same.symm, leaves value after read⟩

/-- A reader of its own is one of those that the action may have. -/
theorem alone_eq (inModule : base ≤ contents.length) {action : Load α}
    {result : Except LoadError α} (comes : ComesTo contents base first last action result) :
    Load.alone contents base first action = result := by
  rw [Load.alone_eq inModule]
  exact (comes _ ⟨0, Nat.zero_le _, rfl⟩).1

theorem bind {middle : Phase} {action : Load α} {next : α → Load β}
    {result : Except LoadError α} {rest : α → Except LoadError β}
    (comes : ComesTo contents base first middle action result)
    (goesOn : ∀ value, ComesTo contents base middle last (next value) (rest value)) :
    ComesTo contents base first last (action >>= next) (result >>= rest) := by
  intro reader inside
  rcases comes reader inside with ⟨same, inModule⟩
  rw [← same]
  cases ended : action reader with
  | ok value left =>
    rw [run_bind_of_ok ended]
    exact goesOn value left (inModule value left ended)
  | error error left =>
    rw [run_bind_of_error ended]
    refine ⟨rfl, ?_⟩
    intro _ _ impossible
    cases impossible

/-- Only the result that the first action has comes into question for the second one. -/
theorem bind_ok {middle : Phase} {action : Load α} {next : α → Load β} {value : α}
    {result : Except LoadError β} (comes : ComesTo contents base first middle action (.ok value))
    (goesOn : ComesTo contents base middle last (next value) result) :
    ComesTo contents base first last (action >>= next) result := by
  intro reader inside
  rcases comes reader inside with ⟨same, inModule⟩
  cases ended : action reader with
  | ok value' left =>
    rw [ended] at same
    cases same
    rw [run_bind_of_ok ended]
    exact goesOn left (inModule value left ended)
  | error error left =>
    rw [ended] at same
    cases same

/-- Entering a phase comes to nothing. -/
theorem enter_bind {next : Load α} {result : Except LoadError α}
    (comes : ComesTo contents base phase last next result) :
    ComesTo contents base first last (enter phase >>= fun _ => next) result := by
  rintro _ ⟨position, inside, rfl⟩
  exact comes _ ⟨position, inside, rfl⟩

/-- An action that asks for the reader may use its phase. -/
theorem get_bind {next : Reader → Load α} {result : Except LoadError α}
    (comes : ∀ reader : Reader, reader.phase = first →
      ComesTo contents base first last (next reader) result) :
    ComesTo contents base first last (get >>= next) result := by
  rintro _ ⟨position, inside, rfl⟩
  exact comes _ rfl _ ⟨position, inside, rfl⟩

end ComesTo

end Load

/-! ## Laying out a block -/

def Pass.apply (pass : Pass) (spaces : List VariableSpace) (phase : Phase) (block : DataBlock)
    (vars : List Variable) (workspace : Workspace) : Except LoadError Workspace :=
  match pass.run spaces phase block vars workspace with
  | .ok () edited => .ok edited
  | .error error _ => .error error

theorem Load.ComesTo.normalize {contents : List UInt8} {base : Nat} {current : Phase} (pass : Pass)
    (spaces : List VariableSpace) (phase : Phase) (block : DataBlock) (vars : List Variable)
    (workspace : Workspace) :
    ComesTo contents base current current (normalize pass spaces phase block vars workspace)
      (pass.apply spaces phase block vars workspace) := by
  intro reader inside
  unfold Load.normalize Pass.apply
  cases pass.run spaces phase block vars workspace with
  | ok value edited =>
    refine ⟨rfl, ?_⟩
    intro _ left ended
    cases ended
    exact inside
  | error error edited =>
    refine ⟨rfl, ?_⟩
    intro _ _ impossible
    cases impossible

/-! ## The sections of a module -/

section Sections

open Load

variable {phase : Phase}

theorem Header.read_placeless (minimum : UInt32) : Placeless .header (Header.read minimum) := by
  rintro contents base _ _ ⟨⟨position, inside, rfl⟩, position', inside', rfl⟩
  refine Placeless.seek_bind 0 ?_ contents base _ _
    ⟨⟨position, inside, rfl⟩, position', inside', rfl⟩
  apply (Steady.record Header.format).bind
  rintro ⟨first, header⟩
  by_cases foreign : first ≠ Header.magic
  · simp only [if_pos foreign]
    exact Steady.throw_bind _ _
  simp only [if_neg foreign]
  by_cases old : header.version < minimum
  · simp only [if_pos old]
    exact Steady.throw_bind _ _
  · simp only [if_neg old]
    exact Steady.pure _

variable [Memory]

theorem ProcedureShape.readTable_placeless (part : Section) :
    Placeless phase (ProcedureShape.readTable part) :=
  Placeless.records part _ _

theorem StringPool.read_placeless (strings text : Section) :
    Placeless phase (StringPool.read strings text) := by
  apply (Placeless.words strings).bind
  intro offsets
  apply (Placeless.bytes text).bind
  intro text
  split
  · rename_i index start _
    exact Placeless.phase_bind
      (fun phase => throw (.malformed phase (.stringPastText index start text.length)))
      (Placeless.throw _)
  · exact Placeless.pure _

theorem EmbeddedFile.readTable_placeless (part : Section) :
    Placeless phase (EmbeddedFile.readTable part) := by
  apply Placeless.table
  apply (Steady.record _).bind
  rintro ⟨nameSize, contents⟩
  exact (Steady.name _).bind fun _ => Steady.get.bind fun _ => Steady.pure _

theorem IdTable.read_placeless (part : Section) : Placeless phase (IdTable.read part) :=
  (Placeless.records part _ _).bind fun _ => Placeless.pure _

theorem Variable.readTable_placeless (part : Section) :
    Placeless phase (Variable.readTable part) :=
  Placeless.records part _ _

theorem VariableSpace.readAll_placeless (directory : Section) :
    Placeless phase (VariableSpace.readAll directory) :=
  (Placeless.records directory _ _).bind fun tables =>
    (Placeless.allocate .space tables.length).bind fun _ =>
      Placeless.mapM Variable.readTable_placeless tables

theorem SourceListing.readPaths_placeless (part : Section) :
    Placeless phase (SourceListing.readPaths part) :=
  Placeless.table part _ _ (Steady.word.bind fun _ => Steady.name _)

theorem SystemCall.readTable_placeless (part : Section) :
    Placeless phase (SystemCall.readTable part) :=
  Placeless.table part _ _
    ((Steady.record _).bind fun _ => (Steady.bytes _).bind fun _ => Steady.pure _)

theorem Procedure.readCode_placeless (index : Nat) (code : Section) :
    Placeless phase (Procedure.readCode index code) := by
  have parts : Placeless phase (code.part? fun code => Section.words ⟨code.offset, code.count / 4⟩) :=
    Placeless.part? code (Placeless.words _)
  unfold Procedure.readCode
  split
  · exact parts
  · exact Placeless.phase_bind
      (fun phase => throw (.malformed phase (.raggedCode index code.count)) >>= fun _ => _)
      ((Placeless.throw _).bind fun _ => parts)

end Sections

end CompiledModule
