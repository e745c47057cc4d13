import CompiledModule.Loader
import CompiledModule.Proofs.Layout.BlockAlike
import Mathlib.Data.List.Forall2

namespace CompiledModule

/-!
# Loads for hosts of different byte orders

The byte order of the host and the wish to have data checked enter a load only as the pass that is
run over the blocks of data.  Two loads that differ in nothing else read the same bytes in the same
order, so they can part only at a block, and what `BlockAlike` says of the passes says where.

A host of the other order accepts exactly the modules that a checking host of the file's order
accepts, and refuses the others with the same error; the modules differ in the contents of data
blocks only.  A load that does not check accepts no fewer modules, and gives the same module
whenever the checking load gives one.
-/

/-! ## Modules that differ in their data -/

/-- Equal procedures up to the bytes of their data, which are there or absent together and are
related by `data`. -/
structure Procedure.Alike (data : List UInt8 → List UInt8 → Prop) (left right : Procedure) :
    Prop where
  others : { left with privateData := right.privateData, publicData := right.publicData } = right
  privateData : Option.Rel data left.privateData right.privateData
  publicData : Option.Rel data left.publicData right.publicData

/-- Equal modules up to the bytes of their data, which are related by `data`. -/
structure LoadedModule.Alike (data : List UInt8 → List UInt8 → Prop) (left right : LoadedModule) :
    Prop where
  others :
    { left with
      globalData := right.globalData, localData := right.localData,
      procedures := right.procedures } = right
  globalData : data left.globalData right.globalData
  localData : data left.localData right.localData
  procedures : List.Forall₂ (Procedure.Alike data) left.procedures right.procedures

private theorem eq_of_rel_eq {left right : Option α} (related : Option.Rel Eq left right) :
    left = right := by
  cases related with
  | some same => rw [same]
  | none => rfl

theorem Procedure.Alike.eq {left right : Procedure} (alike : left.Alike Eq right) :
    left = right := by
  have samePrivate := eq_of_rel_eq alike.privateData
  have samePublic := eq_of_rel_eq alike.publicData
  rw [← alike.others, ← samePrivate, ← samePublic]

theorem LoadedModule.Alike.eq {left right : LoadedModule} (alike : left.Alike Eq right) :
    left = right := by
  have sameProcedures : left.procedures = right.procedures := by
    have pointwise := alike.procedures.imp fun _ _ procedures => procedures.eq
    exact List.forall₂_eq_eq_eq ▸ pointwise
  rw [← alike.others, ← alike.globalData, ← alike.localData, ← sameProcedures]

/-! ## Two loads that differ in their pass -/

variable {excuse : LoadError → Prop} {data : List UInt8 → List UInt8 → Prop}
  {blocks : Workspace → Workspace → Prop} {left right : Pass}

variable [Memory]

namespace Procedure

theorem load_alike (passes : Load.PassesAlike excuse data blocks left right)
    (spaces : List VariableSpace) (ids : IdTable) {v w : Workspace} (start : blocks v w)
    (index : Nat) (shape : ProcedureShape) :
    Coupled excuse Eq
      (fun a b => a.1.Alike data b.1 ∧ ∃ v' w', blocks v' w' ∧ a.2 = v'.sizes ∧ b.2 = w'.sizes)
      (load spaces ids left v.sizes index shape) (load spaces ids right w.sizes index shape) := by
  unfold load
  apply Coupled.bind_same (Coupled.refl _)
  intro privateData
  apply Coupled.bind_same (Coupled.refl _)
  intro publicData
  -- What follows the data is read in the same way, too, up to the phase of the reader.
  iterate 6
    apply Coupled.bind_same (Coupled.refl _)
    intro _
  apply (passes.normalize _ _ _ _ (passes.next _ start)).bind
  intro privateLeft privateRight alikePrivate
  apply (passes.normalize _ _ _ _ (passes.next _ alikePrivate)).bind
  intro publicLeft publicRight alikePublic
  apply Coupled.pure
  refine ⟨⟨rfl, ?_, ?_⟩, publicLeft, publicRight, alikePublic, rfl, rfl⟩
  · cases privateData with
    | none => exact Option.Rel.none
    | some bytes => exact Option.Rel.some (passes.data alikePrivate)
  · cases publicData with
    | none => exact Option.Rel.none
    | some bytes => exact Option.Rel.some (passes.data alikePublic)

theorem loadAll_alike (passes : Load.PassesAlike excuse data blocks left right)
    (spaces : List VariableSpace) (ids : IdTable) {v w : Workspace} (start : blocks v w)
    (index : Nat) (shapes : List ProcedureShape) :
    Coupled excuse Eq (List.Forall₂ (Procedure.Alike data))
      (loadAll spaces ids left v.sizes index shapes)
      (loadAll spaces ids right w.sizes index shapes) := by
  induction shapes generalizing v w index with
  | nil => exact Coupled.pure List.Forall₂.nil
  | cons shape rest ih =>
    unfold loadAll
    apply (load_alike passes spaces ids start index shape).bind
    rintro ⟨first, sizes⟩ ⟨first', sizes'⟩ ⟨alike, v', w', after, rfl, rfl⟩
    apply (ih after (index + 1)).bind
    intro others others' alikeOthers
    exact Coupled.pure (List.Forall₂.cons alike alikeOthers)

theorem loadTable_alike (passes : Load.PassesAlike excuse data blocks left right)
    (spaces : List VariableSpace) (ids : IdTable) {v w : Workspace} (start : blocks v w)
    (shapes : List ProcedureShape) :
    Coupled excuse Eq (List.Forall₂ (Procedure.Alike data))
      (loadTable spaces ids left v.sizes shapes) (loadTable spaces ids right w.sizes shapes) := by
  unfold loadTable
  apply Coupled.bind_same (Coupled.refl _)
  intro _
  exact loadAll_alike passes spaces ids start 0 shapes

end Procedure

namespace LoadedModule

/-- The options agree on everything that is not about data. -/
structure SameChoices (left right : LoadOptions) : Prop where
  minimumVersion : left.minimumVersion = right.minimumVersion
  entryPoint : left.entryPoint = right.entryPoint
  loadSources : left.loadSources = right.loadSources

variable {options other : LoadOptions}

theorem read_alike (choices : SameChoices options other)
    (passes : Load.PassesAlike excuse data blocks options.pass other.pass)
    (host : HostTable) (provider : SourceProvider) :
    Coupled excuse Eq (Alike data) (read options host provider) (read other host provider) := by
  unfold read readListings
  rw [choices.minimumVersion, choices.entryPoint, choices.loadSources]
  -- Everything up to the variable spaces is read alike.
  iterate 19
    apply Coupled.bind_same (Coupled.refl _)
    intro _
  apply Coupled.bind_same (Coupled.refl _)
  intro spaces
  apply (passes.normalize spaces _ _ _ (passes.fresh _)).bind
  intro globals globals' alikeGlobals
  apply (passes.normalize spaces _ _ _ (passes.next _ alikeGlobals)).bind
  intro locals locals' alikeLocals
  iterate 3
    apply Coupled.bind_same (Coupled.refl _)
    intro _
  apply (Procedure.loadTable_alike passes spaces _ alikeLocals _).bind
  intro procedures procedures' alikeProcedures
  iterate 3
    apply Coupled.bind_same (Coupled.refl _)
    intro _
  have names : procedures.map Procedure.name = procedures'.map Procedure.name := by
    induction alikeProcedures with
    | nil => rfl
    | cons alike _ ih => rw [List.map_cons, List.map_cons, ih, ← alike.others]
  apply Coupled.pure
  refine ⟨?_, passes.data alikeGlobals, passes.data alikeLocals, alikeProcedures⟩
  rw [names]

/-- Loads end as their runs over the module end. -/
theorem load_ends {excuse : LoadError → Prop} {values : LoadedModule → LoadedModule → Prop}
    {host host' : HostTable} {provider provider' : SourceProvider} {stream : Stream} {base : Nat}
    (ends : ∀ reader, Reader.open? stream base = .ok reader →
      EndAlike excuse Eq values (read options host provider reader)
        (read other host' provider' reader)) :
    (∃ error, load options host provider stream base = .error error ∧
      (load other host' provider' stream base = .error error ∨ excuse error)) ∨
    (∃ a b, load options host provider stream base = .ok a ∧
      load other host' provider' stream base = .ok b ∧ values a b) := by
  rw [load, load]
  cases opened : Reader.open? stream base with
  | error error => exact Or.inl ⟨error, rfl, Or.inl rfl⟩
  | ok reader =>
    have ends := ends reader opened
    simp only [bind, Except.bind]
    revert ends
    cases read options host provider reader with
    | ok a s =>
      cases read other host' provider' reader with
      | ok b t =>
        intro ends
        exact Or.inr ⟨a, b, rfl, rfl, ends.1⟩
      | error error t =>
        intro ends
        exact ends.elim
    | error error s =>
      cases read other host' provider' reader with
      | ok b t =>
        intro ends
        exact Or.inl ⟨error, rfl, Or.inr ends⟩
      | error other t =>
        intro ends
        rcases ends with ⟨same, _⟩ | excused
        · subst same
          exact Or.inl ⟨error, rfl, Or.inl rfl⟩
        · exact Or.inl ⟨error, rfl, Or.inr excused⟩

theorem load_alike (choices : SameChoices options other)
    (passes : Load.PassesAlike excuse data blocks options.pass other.pass)
    (host : HostTable) (provider : SourceProvider) (stream : Stream) (base : Nat) :
    (∃ error, load options host provider stream base = .error error ∧
      (load other host provider stream base = .error error ∨ excuse error)) ∨
    (∃ a b, load options host provider stream base = .ok a ∧
      load other host provider stream base = .ok b ∧ a.Alike data b) :=
  load_ends fun reader _ => read_alike choices passes host provider reader reader rfl

/-- The byte order of the host decides about nothing but the bytes of the data.  A load for a host
of the other order, whether or not it asks for checks, ends like a checking load for a host of the
file's order: with the same error, or with modules equal in all but the contents of their data,
which has the same length.  And checking takes nothing away but modules whose data cannot be laid
out: if the checking load succeeds, so does the one that does not check, with the same module, and
an error of the latter is an error of the former unless a block has stopped it before. -/
theorem load_hostOrder (options : LoadOptions) (verify : Bool) (host : HostTable)
    (provider : SourceProvider) (stream : Stream) (base : Nat) :
    let converting := { options with hostOrder := .big, checkData := verify }
    let checking := { options with hostOrder := .little, checkData := true }
    let trusting := { options with hostOrder := .little, checkData := false }
    ((∃ error, load converting host provider stream base = .error error ∧
        load checking host provider stream base = .error error) ∨
      (∃ converted checked, load converting host provider stream base = .ok converted ∧
        load checking host provider stream base = .ok checked ∧
        converted.Alike Load.SameLength checked)) ∧
    (∀ loaded, load checking host provider stream base = .ok loaded →
      load trusting host provider stream base = .ok loaded) ∧
    (∀ error, load trusting host provider stream base = .error error →
      load checking host provider stream base = .error error ∨
      ∃ phase block cause,
        load checking host provider stream base = .error (.inBlock phase block cause)) := by
  intro converting checking trusting
  have sameChoices : SameChoices converting checking := ⟨rfl, rfl, rfl⟩
  have swaps : Pass.swap ≠ .skip := by decide
  have swapped := load_alike sameChoices (Load.passesAlike_check swaps) host provider stream base
  have sameAgain : SameChoices checking trusting := ⟨rfl, rfl, rfl⟩
  have unchecked := load_alike sameAgain Load.passesAlike_skip host provider stream base
  refine ⟨?_, ?_, ?_⟩
  · rcases swapped with ⟨error, failed, same | excused⟩ | both
    · exact Or.inl ⟨error, failed, same⟩
    · exact excused.elim
    · exact Or.inr both
  · intro loaded succeeded
    rcases unchecked with ⟨error, failed, -⟩ | ⟨a, b, first, second, alike⟩
    · rw [succeeded] at failed
      cases failed
    · rw [succeeded] at first
      cases first
      rw [second, alike.eq]
  · intro error failed
    rcases unchecked with ⟨error', stopped, same | excused⟩ | ⟨a, b, first, second, alike⟩
    · rw [failed] at same
      cases same
      exact Or.inl stopped
    · rcases excused with ⟨phase, block, cause, rfl⟩
      exact Or.inr ⟨phase, block, cause, stopped⟩
    · rw [failed] at second
      cases second

end LoadedModule

end CompiledModule
