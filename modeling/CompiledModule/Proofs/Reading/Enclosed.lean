import CompiledModule.Loader
import CompiledModule.Proofs.Reading.InMemory
import Mathlib.Data.List.Forall2

namespace CompiledModule

/-!
# A module among other bytes

A module may stand behind other data in a stream, and other data may follow it.  Two readers of one
module, of which one has the module alone and the other one has it between such data, stand at the
same position and see the same bytes up to the module's end.

What stands in front of the module is never seen: positions count from the module's first byte, and
so do the numbers in errors.  Only the places of embedded files count from the start of the stream,
and they move with the module.

What follows the module makes it longer for its reader.  That can be noticed only by asking for
bytes that the module alone does not have, and then the load of the module alone has ended with an
error about its stream.  Every other load, whether it gives a module or finds a fault in its format,
ends in the same way with anything behind the module.
-/

/-- Two readers of one module at the same position, of which the second finds other bytes in front of
the module and behind it. -/
def Reader.Enclosed (front contents behind : List UInt8) (alone enclosed : Reader) : Prop :=
  ∃ phase, ∃ position ≤ contents.length,
    alone = .over contents 0 phase position ∧
      enclosed = .over (front ++ contents ++ behind) front.length phase position

/-- The action does not notice what stands around the module, unless it ends with an excuse. -/
def Load.Unaware (excuse : LoadError → Prop) (front contents behind : List UInt8)
    (action : Load α) : Prop :=
  Coupled excuse (Reader.Enclosed front contents behind) Eq action action

/-- Nothing follows the module, or an error about the stream is an excuse. -/
def Load.Excuses (excuse : LoadError → Prop) (behind : List UInt8) : Prop :=
  behind = [] ∨ ∀ error : LoadError, error.kind = .io → excuse error

variable {front contents behind : List UInt8} {excuse : LoadError → Prop}

theorem Reader.length_enclosed (front contents behind : List UInt8) :
    (front ++ contents ++ behind).length - front.length = contents.length + behind.length := by
  simp only [List.length_append]
  omega

namespace Load

/-- The bytes of the module are where its reader looks for them. -/
theorem bytesAt_enclosed {position count : Nat} (fits : position + count ≤ contents.length) :
    bytesAt (front ++ contents ++ behind) front.length position count =
      bytesAt contents 0 position count := by
  have inside : count ≤ (contents.drop position).length := by
    rw [List.length_drop]
    omega
  unfold bytesAt
  rw [Nat.zero_add, ← List.drop_drop, List.append_assoc, List.drop_left,
    List.drop_append_of_le_length (by omega), List.take_append_of_le_length inside]

/-- A refusal that names the length of the module is the same when nothing follows the module, and
otherwise it is an excuse. -/
theorem Excuses.endAlike {values : α → β → Prop} (excuses : Excuses excuse behind)
    (refusal : Nat → LoadError) (refused : (refusal contents.length).kind = .io)
    {alone enclosed : Reader} (related : Reader.Enclosed front contents behind alone enclosed)
    (right : EStateM.Result LoadError Reader β)
    (same : behind = [] → right = .error (refusal (contents.length + behind.length)) enclosed) :
    EndAlike excuse (Reader.Enclosed front contents behind) values
      (.error (refusal contents.length) alone) right := by
  rcases excuses with nothing | io
  · rw [same nothing, nothing]
    exact Or.inl ⟨rfl, nothing ▸ related⟩
  · exact EndAlike.excused (io _ refused) right

namespace Unaware

/-! ## Single requests -/

theorem seek (excuses : Excuses excuse behind) (offset : UInt32) :
    Unaware excuse front contents behind (Load.seek (.start offset)) := by
  rintro alone enclosed ⟨phase, position, inside, rfl, rfl⟩
  have related : Reader.Enclosed front contents behind _ _ :=
    ⟨phase, position, inside, rfl, rfl⟩
  rw [seek_start_over, seek_start_over, Reader.length_enclosed, Nat.sub_zero]
  by_cases there : offset.toNat ≤ contents.length
  · rw [if_pos there, if_pos (by omega)]
    exact ⟨rfl, phase, offset.toNat, there, rfl, rfl⟩
  · rw [if_neg there]
    refine excuses.endAlike (fun length => .io phase (.seekOutside (.start offset) length)) rfl
      related _ ?_
    rintro rfl
    exact if_neg there

theorem ensure (excuses : Excuses excuse behind) (count : Nat) :
    Unaware excuse front contents behind (Load.ensure count) := by
  rintro alone enclosed ⟨phase, position, inside, rfl, rfl⟩
  have related : Reader.Enclosed front contents behind _ _ :=
    ⟨phase, position, inside, rfl, rfl⟩
  rw [ensure_over, ensure_over, Reader.length_enclosed, Nat.sub_zero]
  by_cases fits : position + count ≤ contents.length
  · rw [if_pos fits, if_pos (by omega)]
    exact ⟨rfl, related⟩
  · rw [if_neg fits]
    refine excuses.endAlike (fun length => .truncated phase position count length)
      rfl related _ ?_
    rintro rfl
    exact if_neg fits

theorem fixed (excuses : Excuses excuse behind) (count : Nat) :
    Unaware excuse front contents behind (Load.fixed count) := by
  rintro alone enclosed ⟨phase, position, inside, rfl, rfl⟩
  have related : Reader.Enclosed front contents behind _ _ :=
    ⟨phase, position, inside, rfl, rfl⟩
  rw [fixed_over, fixed_over]
  simp only [Reader.length_enclosed, Nat.sub_zero]
  by_cases fits : position + count ≤ contents.length
  · rw [dif_pos fits, dif_pos (by omega)]
    refine ⟨Subtype.ext (bytesAt_enclosed fits).symm, phase, position + count, fits, rfl, rfl⟩
  · rw [dif_neg fits]
    refine excuses.endAlike (fun length => .truncated phase position count length)
      rfl related _ ?_
    rintro rfl
    exact dif_neg fits

theorem truncated (excuses : Excuses excuse behind) (count : Nat) :
    Unaware excuse front contents behind (Load.truncated count : Load α) := by
  rintro alone enclosed ⟨phase, position, inside, rfl, rfl⟩
  refine excuses.endAlike (fun length => .truncated phase position count length)
    rfl ⟨phase, position, inside, rfl, rfl⟩ _ ?_
  rintro rfl
  unfold Load.truncated Reader.over
  simp

theorem enter (phase : Phase) : Unaware excuse front contents behind (Load.enter phase) := by
  rintro alone enclosed ⟨_, position, inside, rfl, rfl⟩
  exact ⟨rfl, phase, position, inside, rfl, rfl⟩

/-- An action may ask for the reader, of which the two know the same phase. -/
theorem get_bind {values : α → β → Prop} {next : Reader → Load α} {other : Reader → Load β}
    (rest : ∀ left right, left.phase = right.phase → left.base = 0 → right.base = front.length →
      Coupled excuse (Reader.Enclosed front contents behind) values (next left) (other right)) :
    Coupled excuse (Reader.Enclosed front contents behind) values (get >>= next)
      (get >>= other) := by
  rintro alone enclosed ⟨phase, position, inside, rfl, rfl⟩
  have related := rest (.over contents 0 phase position)
    (.over (front ++ contents ++ behind) front.length phase position) rfl rfl rfl
  exact related _ _ ⟨phase, position, inside, rfl, rfl⟩

/-! ## Requests put together -/

theorem pure (value : α) : Unaware excuse front contents behind (pure value) :=
  Coupled.pure rfl

theorem throw (error : LoadError) :
    Unaware excuse front contents behind (throw error : Load α) :=
  Coupled.throw error

/-- Nothing comes after an error. -/
theorem throw_bind (error : LoadError) (next : α → Load β) :
    Unaware excuse front contents behind ((MonadExcept.throw error : Load α) >>= next) :=
  throw error

theorem bind {action : Load α} {next : α → Load β}
    (first : Unaware excuse front contents behind action)
    (rest : ∀ value, Unaware excuse front contents behind (next value)) :
    Unaware excuse front contents behind (action >>= next) :=
  Coupled.bind_same first rest

theorem map (function : α → β) {action : Load α}
    (unaware : Unaware excuse front contents behind action) :
    Unaware excuse front contents behind (function <$> action) :=
  unaware.bind fun _ => pure _

/-- An error that names the phase ends both. -/
theorem throw_phase (error : Phase → LoadError) (next : α → Load β) :
    Unaware excuse front contents behind
      (get >>= fun reader => (MonadExcept.throw (error reader.phase) : Load α) >>= next) := by
  apply get_bind
  intro left right same _ _
  rw [same]
  exact throw_bind _ _

theorem record (excuses : Excuses excuse behind) (format : Record α) :
    Unaware excuse front contents behind (Load.record format) :=
  (fixed excuses format.size).bind fun _ => pure _

theorem word (excuses : Excuses excuse behind) :
    Unaware excuse front contents behind Load.word :=
  (fixed excuses 4).bind fun _ => pure _

theorem mapM {action : α → Load β}
    (unaware : ∀ entry, Unaware excuse front contents behind (action entry)) (entries : List α) :
    Unaware excuse front contents behind (entries.mapM action) := by
  induction entries with
  | nil => exact pure []
  | cons entry rest ih =>
    rw [List.mapM_cons]
    exact (unaware entry).bind fun _ => ih.bind fun _ => pure _

/-- A layout does not look at the reader. -/
theorem normalize (pass : Pass) (spaces : List VariableSpace) (phase : Phase) (block : DataBlock)
    (vars : List Variable) (workspace : Workspace) :
    Unaware excuse front contents behind
      (Load.normalize pass spaces phase block vars workspace) := by
  intro alone enclosed related
  unfold Load.normalize
  cases pass.run spaces phase block vars workspace with
  | ok _ edited => exact ⟨rfl, related⟩
  | error error _ => exact Or.inl ⟨rfl, related⟩

section Runs

variable [Memory]

/-- Room is granted to both or to neither, in the same phase. -/
theorem allocate (cell : Cell) (count : Nat) :
    Unaware excuse front contents behind (Load.allocate cell count) := by
  rintro alone enclosed ⟨phase, position, inside, rfl, rfl⟩
  have related : Reader.Enclosed front contents behind _ _ :=
    ⟨phase, position, inside, rfl, rfl⟩
  rw [allocate_eq, allocate_eq]
  split
  · exact ⟨rfl, related⟩
  · exact Or.inl ⟨rfl, related⟩

theorem bytes (excuses : Excuses excuse behind) (count : Nat) :
    Unaware excuse front contents behind (Load.bytes count) :=
  (ensure excuses count).bind fun _ => (allocate .byte count).bind fun _ =>
    (fixed excuses count).bind fun _ => pure _

theorem words (excuses : Excuses excuse behind) (count : Nat) :
    Unaware excuse front contents behind (Load.words count) := by
  have rest : Unaware excuse front contents behind (Load.bytes (count * 4) >>= fun stored =>
      Load.allocate .word count >>= fun _ => Pure.pure (splitWords count stored)) :=
    (bytes excuses _).bind fun _ => (allocate .word count).bind fun _ => pure _
  unfold Load.words
  split
  · exact (truncated excuses _).bind fun _ => rest
  · exact rest

theorem name (excuses : Excuses excuse behind) (size : Nat) :
    Unaware excuse front contents behind (Load.name size) :=
  (bytes excuses size).bind fun _ => pure _

end Runs

end Unaware

/-! ## Sections -/

section Entries

variable {values : α → β → Prop}

theorem times_enclosed {left : Load α} {right : Load β}
    (entry : Coupled excuse (Reader.Enclosed front contents behind) values left right)
    (count : Nat) :
    Coupled excuse (Reader.Enclosed front contents behind) (List.Forall₂ values)
      (Load.times left count) (Load.times right count) := by
  induction count with
  | zero => exact Coupled.pure List.Forall₂.nil
  | succ count ih =>
    apply Coupled.bind entry
    intro first first' alike
    apply Coupled.bind ih
    intro rest rest' alikeRest
    exact Coupled.pure (List.Forall₂.cons alike alikeRest)

theorem entries_enclosed (excuses : Excuses excuse behind) (part : Section)
    {left : Nat → Load (List α)} {right : Nat → Load (List β)}
    (body : ∀ count, Coupled excuse (Reader.Enclosed front contents behind)
      (List.Forall₂ values) (left count) (right count)) :
    Coupled excuse (Reader.Enclosed front contents behind) (List.Forall₂ values)
      (part.entries left) (part.entries right) := by
  unfold Section.entries
  split
  · exact Coupled.pure List.Forall₂.nil
  · apply Coupled.bind_same (Unaware.seek excuses part.offset)
    intro _
    exact body _

theorem table_enclosed [Memory] (excuses : Excuses excuse behind) (part : Section) (cell : Cell)
    (size : Nat) {left : Load α} {right : Load β}
    (entry : Coupled excuse (Reader.Enclosed front contents behind) values left right) :
    Coupled excuse (Reader.Enclosed front contents behind) (List.Forall₂ values)
      (part.table cell size left) (part.table cell size right) := by
  apply entries_enclosed excuses
  intro count
  apply Coupled.bind_same ((Unaware.ensure excuses _).bind fun _ => Unaware.allocate cell count)
  intro _
  exact times_enclosed entry count

end Entries

namespace Unaware

theorem of_forall₂ {action : Load (List α)}
    (coupled : Coupled excuse (Reader.Enclosed front contents behind) (List.Forall₂ Eq)
      action action) :
    Unaware excuse front contents behind action :=
  coupled.weaken fun _ _ pointwise => List.forall₂_eq_eq_eq ▸ pointwise

theorem entries (excuses : Excuses excuse behind) (part : Section) {body : Nat → Load (List α)}
    (unaware : ∀ count, Unaware excuse front contents behind (body count)) :
    Unaware excuse front contents behind (part.entries body) := by
  apply of_forall₂
  apply entries_enclosed excuses
  intro count
  exact (unaware count).weaken fun _ _ same => List.forall₂_eq_eq_eq ▸ same

theorem part? (part : Section) {body : Section → Load α}
    (unaware : Unaware excuse front contents behind (body part)) :
    Unaware excuse front contents behind (part.part? body) := by
  unfold Section.part?
  split
  · exact pure none
  · exact unaware.map some

variable [Memory]

theorem sectionBytes (excuses : Excuses excuse behind) (part : Section) :
    Unaware excuse front contents behind part.bytes :=
  entries excuses part (bytes excuses)

theorem sectionWords (excuses : Excuses excuse behind) (part : Section) :
    Unaware excuse front contents behind part.words :=
  entries excuses part (words excuses)

theorem table (excuses : Excuses excuse behind) (part : Section) (cell : Cell) (size : Nat)
    {entry : Load α} (unaware : Unaware excuse front contents behind entry) :
    Unaware excuse front contents behind (part.table cell size entry) :=
  of_forall₂ (table_enclosed excuses part cell size unaware)

theorem records (excuses : Excuses excuse behind) (part : Section) (cell : Cell)
    (format : Record α) : Unaware excuse front contents behind (part.records cell format) :=
  table excuses part cell _ (record excuses format)

end Unaware

end Load

/-! ## The sections of a module -/

section Sections

open Load

theorem Header.read_unaware (excuses : Excuses excuse behind) (minimum : UInt32) :
    Unaware excuse front contents behind (Header.read minimum) := by
  apply (Unaware.enter .header).bind
  intro _
  apply (Unaware.seek excuses 0).bind
  intro _
  apply (Unaware.record excuses Header.format).bind
  rintro ⟨first, header⟩
  by_cases foreign : first ≠ Header.magic
  · simp only [if_pos foreign]
    exact Unaware.throw_bind _ _
  simp only [if_neg foreign]
  by_cases old : header.version < minimum
  · simp only [if_pos old]
    exact (Unaware.throw _).bind fun _ => Unaware.pure _
  · simp only [if_neg old]
    exact Unaware.pure _

variable [Memory]

theorem StringPool.read_unaware (excuses : Excuses excuse behind) (strings text : Section) :
    Unaware excuse front contents behind (StringPool.read strings text) := by
  apply (Unaware.sectionWords excuses strings).bind
  intro offsets
  apply (Unaware.sectionBytes excuses text).bind
  intro text
  split
  · rename_i index start _
    exact Unaware.throw_phase
      (fun phase => .malformed phase (.stringPastText index start text.length)) pure
  · exact Unaware.pure _

theorem IdTable.read_unaware (excuses : Excuses excuse behind) (part : Section) :
    Unaware excuse front contents behind (IdTable.read part) :=
  (Unaware.records excuses part _ _).bind fun _ => Unaware.pure _

theorem VariableSpace.readAll_unaware (excuses : Excuses excuse behind) (directory : Section) :
    Unaware excuse front contents behind (VariableSpace.readAll directory) :=
  (Unaware.records excuses directory _ _).bind fun tables =>
    (Unaware.allocate .space tables.length).bind fun _ =>
      Unaware.mapM (fun table => Unaware.records excuses table _ _) tables

theorem SourceListing.readPaths_unaware (excuses : Excuses excuse behind) (part : Section) :
    Unaware excuse front contents behind (SourceListing.readPaths part) :=
  Unaware.table excuses part _ _
    ((Unaware.word excuses).bind fun _ => Unaware.name excuses _)

theorem SystemCall.readTable_unaware (excuses : Excuses excuse behind) (part : Section) :
    Unaware excuse front contents behind (SystemCall.readTable part) :=
  Unaware.table excuses part _ _
    ((Unaware.record excuses _).bind fun _ =>
      (Unaware.bytes excuses _).bind fun _ => Unaware.pure _)

theorem Procedure.readCode_unaware (excuses : Excuses excuse behind) (index : Nat)
    (code : Section) : Unaware excuse front contents behind (Procedure.readCode index code) := by
  unfold Procedure.readCode
  split
  · exact Unaware.part? code (Unaware.sectionWords excuses _)
  · exact Unaware.throw_phase (fun phase => .malformed phase (.raggedCode index code.count)) _

/-- The place of an embedded file counts from the start of the stream, not of the module. -/
def EmbeddedFile.movedBy (distance : Nat) (file : EmbeddedFile) : EmbeddedFile :=
  { file with offset := distance + file.offset }

theorem EmbeddedFile.readTable_enclosed (excuses : Excuses excuse behind) (part : Section) :
    Coupled excuse (Reader.Enclosed front contents behind)
      (fun files moved => moved = files.map (EmbeddedFile.movedBy front.length))
      (EmbeddedFile.readTable part) (EmbeddedFile.readTable part) := by
  have entry : Coupled excuse (Reader.Enclosed front contents behind)
      (fun file moved => moved = file.movedBy front.length) readEntry readEntry := by
    apply Coupled.bind_same (Unaware.record excuses _)
    rintro ⟨nameSize, stored⟩
    apply Coupled.bind_same (Unaware.name excuses _)
    intro name
    apply Unaware.get_bind
    intro left right _ atStart atFront
    apply Coupled.pure
    simp only [EmbeddedFile.movedBy, atStart, atFront, Nat.zero_add]
  apply (table_enclosed excuses part _ _ entry).weaken
  intro files moved pointwise
  induction pointwise with
  | nil => rfl
  | cons same _ ih => rw [List.map_cons, ← same, ← ih]

end Sections

/-! ## The load -/

namespace Procedure

open Load

variable [Memory]

theorem load_unaware (excuses : Load.Excuses excuse behind) (spaces : List VariableSpace)
    (ids : IdTable) (pass : Pass) (sizes : SizeCache) (index : Nat) (shape : ProcedureShape) :
    Unaware excuse front contents behind (load spaces ids pass sizes index shape) := by
  unfold load
  apply Unaware.bind (Unaware.part? _ (Unaware.sectionBytes excuses _))
  intro privateData
  apply Unaware.bind (Unaware.part? _ (Unaware.sectionBytes excuses _))
  intro publicData
  apply Unaware.bind (readCode_unaware excuses _ _)
  intro code
  apply Unaware.bind (Unaware.sectionWords excuses _)
  intro privateStrings
  apply Unaware.bind (Unaware.sectionWords excuses _)
  intro publicStrings
  apply Unaware.bind (Unaware.records excuses _ _ _)
  intro privateVars
  apply Unaware.bind (Unaware.records excuses _ _ _)
  intro publicVars
  apply Unaware.get_bind
  intro left right samePhase _ _
  simp only [samePhase]
  apply Unaware.bind (Unaware.normalize _ _ _ _ _ _)
  intro privateBlock
  apply Unaware.bind (Unaware.normalize _ _ _ _ _ _)
  intro publicBlock
  exact Unaware.pure _

theorem loadAll_unaware (excuses : Load.Excuses excuse behind) (spaces : List VariableSpace)
    (ids : IdTable) (pass : Pass) (sizes : SizeCache) (index : Nat)
    (shapes : List ProcedureShape) :
    Unaware excuse front contents behind (loadAll spaces ids pass sizes index shapes) := by
  induction shapes generalizing sizes index with
  | nil => exact Unaware.pure []
  | cons shape rest ih =>
    unfold loadAll
    apply (load_unaware excuses spaces ids pass sizes index shape).bind
    rintro ⟨procedure, found⟩
    exact (ih found (index + 1)).bind fun _ => Unaware.pure _

theorem loadTable_unaware (excuses : Load.Excuses excuse behind) (spaces : List VariableSpace)
    (ids : IdTable) (pass : Pass) (sizes : SizeCache) (shapes : List ProcedureShape) :
    Unaware excuse front contents behind (loadTable spaces ids pass sizes shapes) :=
  (Unaware.allocate .procedure shapes.length).bind fun _ =>
    loadAll_unaware excuses spaces ids pass sizes 0 shapes

end Procedure

namespace LoadedModule

open Load

/-- The module in a stream in which it begins later by `distance` bytes. -/
def movedBy (distance : Nat) (loaded : LoadedModule) : LoadedModule :=
  { loaded with files := loaded.files.map (EmbeddedFile.movedBy distance) }

theorem movedBy_zero (loaded : LoadedModule) : loaded.movedBy 0 = loaded := by
  have files : loaded.files.map (EmbeddedFile.movedBy 0) = loaded.files := by
    conv => rhs; rw [← List.map_id loaded.files]
    apply List.map_congr_left
    intro file _
    simp only [EmbeddedFile.movedBy, Nat.zero_add, id]
  unfold movedBy
  rw [files]

variable [Memory]

theorem readListings_unaware (excuses : Excuses excuse behind) (options : LoadOptions)
    (provider : SourceProvider) (paths : Section) :
    Unaware excuse front contents behind (readListings options provider paths) := by
  apply (SourceListing.readPaths_unaware excuses paths).bind
  intro paths
  split <;> exact Unaware.pure _

theorem read_enclosed (front contents : List UInt8) (excuses : Excuses excuse behind)
    (options : LoadOptions) (host : HostTable) (provider : SourceProvider) :
    Coupled excuse (Reader.Enclosed front contents behind)
      (fun loaded moved => moved = loaded.movedBy front.length)
      (read options host provider) (read options host provider) := by
  unfold read
  apply Coupled.bind_same (Header.read_unaware excuses _)
  intro header
  apply Coupled.bind_same (Unaware.enter _)
  intro _
  apply Coupled.bind_same (Unaware.records excuses _ _ _)
  intro shapes
  apply Coupled.bind_same (Unaware.enter _)
  intro _
  apply Coupled.bind_same (StringPool.read_unaware excuses _ _)
  intro strings
  apply Coupled.bind_same (Unaware.enter _)
  intro _
  apply Coupled.bind (EmbeddedFile.readTable_enclosed excuses _)
  rintro files _ rfl
  apply Coupled.bind_same (Unaware.enter _)
  intro _
  apply Coupled.bind_same (Unaware.sectionWords excuses _)
  intro imports
  apply Coupled.bind_same (Unaware.enter _)
  intro _
  apply Coupled.bind_same (IdTable.read_unaware excuses _)
  intro ids
  apply Coupled.bind_same (Unaware.enter _)
  intro _
  apply Coupled.bind_same (Unaware.sectionBytes excuses _)
  intro globalData
  apply Coupled.bind_same (Unaware.records excuses _ _ _)
  intro globalVars
  apply Coupled.bind_same (Unaware.enter _)
  intro _
  apply Coupled.bind_same (Unaware.sectionBytes excuses _)
  intro localData
  apply Coupled.bind_same (Unaware.records excuses _ _ _)
  intro localVars
  apply Coupled.bind_same (Unaware.sectionWords excuses _)
  intro localStrings
  apply Coupled.bind_same (Unaware.enter _)
  intro _
  apply Coupled.bind_same (VariableSpace.readAll_unaware excuses _)
  intro spaces
  apply Coupled.bind_same (Unaware.normalize _ _ _ _ _ _)
  intro globals
  apply Coupled.bind_same (Unaware.normalize _ _ _ _ _ _)
  intro locals
  apply Coupled.bind_same (Unaware.enter _)
  intro _
  apply Coupled.bind_same (readListings_unaware excuses _ _ _)
  intro listings
  apply Coupled.bind_same (Unaware.enter _)
  intro _
  apply Coupled.bind_same (Procedure.loadTable_unaware excuses _ _ _ _ _)
  intro procedures
  apply Coupled.bind_same (Unaware.enter _)
  intro _
  apply Coupled.bind_same (SystemCall.readTable_unaware excuses _)
  intro calls
  apply Coupled.bind_same (Unaware.enter _)
  intro _
  exact Coupled.pure rfl

/-- The load of a module among other bytes ends like the load of the module alone, unless that one
has ended with an excuse. -/
theorem load_enclosed (front contents : List UInt8) (excuses : Excuses excuse behind)
    (options : LoadOptions) (host : HostTable) (provider : SourceProvider) :
    load options host provider (.ofBytes (front ++ contents ++ behind)) front.length =
        (load options host provider (.ofBytes contents) 0).map (movedBy front.length) ∨
      ∃ error, load options host provider (.ofBytes contents) 0 = .error error ∧
        excuse error := by
  have inside : front.length ≤ (front ++ contents ++ behind).length := by
    simp only [List.length_append]
    omega
  have ends := read_enclosed front contents excuses options host provider
    _ _ ⟨.header, 0, Nat.zero_le _, rfl, rfl⟩
  unfold load
  rw [Reader.open?_ofBytes inside, Reader.open?_ofBytes (Nat.zero_le _)]
  simp only [bind, Except.bind]
  revert ends
  cases read options host provider (.over contents 0 .header 0) with
  | ok loaded left =>
    cases read options host provider
        (.over (front ++ contents ++ behind) front.length .header 0) with
    | ok moved left' =>
      rintro ⟨rfl, -⟩
      exact Or.inl rfl
    | error error left' => exact False.elim
  | error error left =>
    cases read options host provider
        (.over (front ++ contents ++ behind) front.length .header 0) with
    | ok moved left' => exact fun excused => Or.inr ⟨error, rfl, excused⟩
    | error error' left' =>
      rintro (⟨rfl, -⟩ | excused)
      · exact Or.inl rfl
      · exact Or.inr ⟨error, rfl, excused⟩

/-- A module behind other bytes loads as it does alone: with the same error, whose places count from
the module's first byte, or with the same module, whose files lie further on in the stream by the
bytes in front.  And what follows a module plays no part as long as the load of the module alone has
not ended with an error about its stream. -/
theorem load_embedded (options : LoadOptions) (host : HostTable) (provider : SourceProvider)
    (front contents behind : List UInt8) :
    load options host provider (.ofBytes (front ++ contents)) front.length =
        (load options host provider (.ofBytes contents) 0).map (movedBy front.length) ∧
      ((∀ error, load options host provider (.ofBytes contents) 0 = .error error →
          error.kind ≠ .io) →
        load options host provider (.ofBytes (contents ++ behind)) 0 =
          load options host provider (.ofBytes contents) 0) := by
  constructor
  · have nothing : Excuses noExcuse [] := Or.inl rfl
    have ends := load_enclosed front contents nothing options host provider
    rw [List.append_nil] at ends
    rcases ends with same | ⟨_, _, excused⟩
    · exact same
    · exact excused.elim
  · intro sound
    have io : Excuses (fun error => error.kind = .io) behind := Or.inr fun _ => id
    have ends := load_enclosed [] contents io options host provider
    rcases ends with same | ⟨error, failed, kind⟩
    · rw [List.nil_append, List.length_nil] at same
      rw [same]
      cases load options host provider (.ofBytes contents) 0 with
      | ok loaded => exact congrArg Except.ok (movedBy_zero loaded)
      | error error => rfl
    · exact absurd kind (sound error failed)

end LoadedModule

end CompiledModule
