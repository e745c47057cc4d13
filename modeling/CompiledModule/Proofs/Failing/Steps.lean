import CompiledModule.Loader
import CompiledModule.Proofs.Layout.BlockAlike

namespace CompiledModule

/-!
# The steps of a load

A load has one step for each phase, and each step is put together from very little.  A reader is
sent to a place of the module, it takes bytes from the stream, and everything else that a step does
is quiet: it neither touches the stream nor looks at it, and it leaves the phase alone.  An error
that a step raises by itself names the phase of the step.

`Step` says of an action that it is put together in this way, and `Course` says the same of actions
that go on from one phase to the next and lay out blocks of data.  What is to be shown of every
error of a load, or of everything that a load asks of its stream, then has to be shown only of the
few things that steps are made of.
-/

/-- The error names the phase, and no block of data. -/
structure LoadError.Stamped (phase : Phase) (error : LoadError) : Prop where
  phase : error.phase = some phase
  unplaced : ¬ Pass.InBlock error

theorem LoadError.stamped_of {phase : Phase} {error : LoadError} (named : error.phase = some phase)
    (other : ∀ place block cause, error ≠ .inBlock place block cause) : error.Stamped phase :=
  ⟨named, fun ⟨place, block, cause, same⟩ => other place block cause same⟩

/-- A run that has left something else behind. -/
def leaving (change : σ → σ) : EStateM.Result ε σ α → EStateM.Result ε σ α
  | .ok value state => .ok value (change state)
  | .error error state => .error error (change state)

namespace Load

/-- The action does the same with every stream, which it leaves as it is, and stays in its phase. -/
structure Quiet (action : Load α) : Prop where
  blind : ∀ reader stream,
    action { reader with stream } = leaving (fun after => { after with stream }) (action reader)
  phase : ∀ reader, (leftBy (action reader)).phase = reader.phase

/-- What looks at the reader but not at its stream, and has an answer or an error, is quiet. -/
theorem Quiet.answer (outcome : Reader → Except LoadError α)
    (blind : ∀ reader stream, outcome { reader with stream } = outcome reader) :
    Quiet fun reader => settle (outcome reader) reader where
  blind reader stream := by
    rw [blind]
    cases outcome reader <;> rfl
  phase reader := by
    cases outcome reader <;> rfl

/-- What is put together from requests to the stream and quiet actions, and fails in a phase with
errors that name it. -/
inductive Step (phase : Phase) : {α : Type} → Load α → Prop
  | seek (offset : UInt32) : Step phase (seek (.start offset))
  | take (count : Nat) : Step phase (take count)
  | quiet {α : Type} {action : Load α} (quiet : Quiet action)
    (stamped : ∀ reader error after, reader.phase = phase → action reader = .error error after →
      error.Stamped phase) : Step phase action
  | bind {α β : Type} {action : Load α} {next : α → Load β} (first : Step phase action)
    (rest : ∀ value, Step phase (next value)) : Step phase (action >>= next)

namespace Step

variable {phase : Phase}

/-- An action that has an answer or an error for every reader, whatever the stream. -/
theorem answer {action : Load α} (outcome : Reader → Except LoadError α)
    (same : ∀ reader, action reader = settle (outcome reader) reader)
    (blind : ∀ reader stream, outcome { reader with stream } = outcome reader)
    (stamped : ∀ reader error, reader.phase = phase → outcome reader = .error error →
      error.Stamped phase) : Step phase action := by
  rw [funext same]
  apply quiet (Quiet.answer outcome blind)
  intro reader error after here failed
  apply stamped reader error here
  cases answered : outcome reader with
  | ok value =>
    rw [answered] at failed
    cases failed
  | error other =>
    rw [answered] at failed
    cases failed
    rfl

theorem pure (value : α) : Step phase (pure value) :=
  answer (fun _ => .ok value) (fun _ => rfl) (fun _ _ => rfl) fun _ _ _ impossible => by
    cases impossible

/-- Nothing comes after an error. -/
theorem throw_bind {error : LoadError} (stamped : error.Stamped phase) (next : α → Load β) :
    Step phase ((throw error : Load α) >>= next) :=
  answer (fun _ => .error error) (fun _ => rfl) (fun _ _ => rfl) fun _ _ _ failed => by
    cases failed
    exact stamped

/-- An error that names the phase in which it is raised. -/
theorem throw_phase (error : Phase → LoadError) (stamped : (error phase).Stamped phase)
    (next : α → Load β) :
    Step phase (get >>= fun reader => (throw (error reader.phase) : Load α) >>= next) :=
  answer (fun reader => .error (error reader.phase)) (fun _ => rfl) (fun _ _ => rfl)
    fun reader _ here failed => by
      cases failed
      rw [here]
      exact stamped

theorem truncated (count : Nat) : Step phase (truncated count : Load α) :=
  answer (fun reader => .error (.truncated reader.phase reader.position count reader.length))
    (fun _ => rfl) (fun _ _ => rfl) fun reader _ here failed => by
      cases failed
      rw [here]
      exact LoadError.stamped_of rfl fun _ _ _ => by simp

theorem ensure (count : Nat) : Step phase (ensure count) := by
  apply answer (fun reader =>
    if reader.position + count ≤ reader.length then .ok ()
    else .error (.truncated reader.phase reader.position count reader.length))
  · intro reader
    rw [ensure_eq]
    split <;> rfl
  · intro reader stream
    rfl
  · intro reader error here failed
    split at failed <;> cases failed
    rw [here]
    exact LoadError.stamped_of rfl fun _ _ _ => by simp

theorem fixed (count : Nat) : Step phase (fixed count) :=
  (ensure count).bind fun _ => take count

theorem record (format : Record α) : Step phase (record format) :=
  (fixed format.size).bind fun _ => pure _

theorem word : Step phase word :=
  (fixed 4).bind fun _ => pure _

theorem allocate [Memory] (cell : Cell) (count : Nat) : Step phase (allocate cell count) := by
  apply answer (fun reader =>
    if Memory.grants (count * Memory.cellSize cell) then .ok ()
    else .error (.allocation reader.phase (saturated (count * Memory.cellSize cell))))
  · intro reader
    rw [allocate_eq]
    split <;> rfl
  · intro reader stream
    rfl
  · intro reader error here failed
    split at failed <;> cases failed
    rw [here]
    exact LoadError.stamped_of rfl fun _ _ _ => by simp

theorem bytes [Memory] (count : Nat) : Step phase (bytes count) :=
  (ensure count).bind fun _ => (allocate .byte count).bind fun _ => (fixed count).bind fun _ =>
    pure _

theorem words [Memory] (count : Nat) : Step phase (words count) := by
  have rest : Step phase (Load.bytes (count * 4) >>= fun stored =>
      Load.allocate .word count >>= fun _ => Pure.pure (splitWords count stored)) :=
    (bytes _).bind fun _ => (allocate .word count).bind fun _ => pure _
  unfold Load.words
  split
  · exact (truncated _).bind fun _ => rest
  · exact rest

theorem name [Memory] (size : Nat) : Step phase (name size) :=
  (bytes size).bind fun _ => pure _

theorem times {action : Load α} (step : Step phase action) (count : Nat) :
    Step phase (times action count) := by
  induction count with
  | zero => exact pure []
  | succ count ih => exact step.bind fun _ => ih.bind fun _ => pure _

theorem mapM {action : α → Load β} (step : ∀ entry, Step phase (action entry))
    (entries : List α) : Step phase (entries.mapM action) := by
  induction entries with
  | nil => exact pure []
  | cons entry rest ih =>
    rw [List.mapM_cons]
    exact (step entry).bind fun _ => ih.bind fun _ => pure _

/-- A step stays in the phase of its reader. -/
theorem phase_left {action : Load α} (step : Step phase action) (reader : Reader) :
    (leftBy (action reader)).phase = reader.phase := by
  induction step generalizing reader with
  | seek offset =>
    rw [seek_start_eq, moveTo]
    split
    · split
      · rfl
      · split <;> rfl
    · rfl
  | take count =>
    unfold Load.take
    split <;> rfl
  | quiet quiet _ => exact quiet.phase reader
  | @bind α β action next _ _ ih ih' =>
    have began := ih reader
    cases ran : action reader with
    | ok value middle =>
      rw [ran] at began
      rw [run_bind_of_ok ran, ih' value middle]
      exact began
    | error error after =>
      rw [ran] at began
      rw [run_bind_of_error ran]
      exact began

/-! ## Sections -/

theorem entries (part : Section) {body : Nat → Load (List α)}
    (step : ∀ count, Step phase (body count)) : Step phase (part.entries body) := by
  unfold Section.entries
  split
  · exact pure []
  · exact (seek part.offset).bind fun _ => step _

theorem part? (part : Section) {body : Section → Load α} (step : Step phase (body part)) :
    Step phase (part.part? body) := by
  unfold Section.part?
  split
  · exact pure none
  · exact step.bind fun _ => pure _

variable [Memory]

theorem sectionBytes (part : Section) : Step phase part.bytes :=
  entries part bytes

theorem sectionWords (part : Section) : Step phase part.words :=
  entries part words

theorem table (part : Section) (cell : Cell) (size : Nat) {entry : Load α}
    (step : Step phase entry) : Step phase (part.table cell size entry) :=
  entries part fun count =>
    ((ensure _).bind fun _ => allocate cell count).bind fun _ => step.times count

theorem records (part : Section) (cell : Cell) (format : Record α) :
    Step phase (part.records cell format) :=
  table part cell _ (record format)

end Step

end Load

/-! ## The sections of a module -/

section Sections

open Load

variable {phase : Phase}

/-- Both errors of the header belong to its phase, which has to be entered before. -/
theorem Header.read_eq_enter (minimum : UInt32) :
    ∃ rest, read minimum = enter .header >>= rest ∧ ∀ value, Step .header (rest value) := by
  refine ⟨_, rfl, fun _ => ?_⟩
  apply (Step.seek 0).bind
  intro _
  apply (Step.record format).bind
  rintro ⟨first, header⟩
  have foreign : (LoadError.badMagic first).Stamped .header :=
    LoadError.stamped_of rfl fun _ _ _ => by simp
  have old : (LoadError.unsupportedVersion header.version minimum).Stamped .header :=
    LoadError.stamped_of rfl fun _ _ _ => by simp
  by_cases magical : first ≠ magic
  · simp only [if_pos magical]
    exact Step.throw_bind foreign _
  simp only [if_neg magical]
  by_cases early : header.version < minimum
  · simp only [if_pos early]
    exact Step.throw_bind old _
  · simp only [if_neg early]
    exact Step.pure _

variable [Memory]

theorem StringPool.read_step (strings text : Section) : Step phase (read strings text) := by
  apply (Step.sectionWords strings).bind
  intro offsets
  apply (Step.sectionBytes text).bind
  intro text
  split
  · rename_i index start _
    exact Step.throw_phase (fun phase => .malformed phase (.stringPastText index start text.length))
      (LoadError.stamped_of rfl fun _ _ _ => by simp) Pure.pure
  · exact Step.pure _

theorem EmbeddedFile.readTable_step (part : Section) : Step phase (readTable part) := by
  apply Step.table
  apply (Step.record format).bind
  rintro ⟨nameSize, contents⟩
  apply (Step.name nameSize.toNat).bind
  intro name
  exact Step.answer
    (fun reader => .ok ⟨name, reader.base + contents.offset.toNat, contents.count⟩)
    (fun _ => rfl) (fun _ _ => rfl) fun _ _ _ impossible => by cases impossible

theorem IdTable.read_step (part : Section) : Step phase (read part) :=
  (Step.records part _ format).bind fun _ => Step.pure _

theorem VariableSpace.readAll_step (directory : Section) : Step phase (readAll directory) :=
  (Step.records directory _ entryFormat).bind fun tables =>
    (Step.allocate .space tables.length).bind fun _ =>
      Step.mapM (fun table => Step.records table _ _) tables

theorem SourceListing.readPaths_step (part : Section) : Step phase (readPaths part) :=
  Step.table part _ _ (Step.word.bind fun _ => Step.name _)

theorem SystemCall.readTable_step (part : Section) : Step phase (readTable part) :=
  Step.table part _ _
    ((Step.record format).bind fun _ => (Step.bytes _).bind fun _ => Step.pure _)

theorem LoadedModule.readListings_step (options : LoadOptions) (provider : SourceProvider)
    (paths : Section) : Step phase (readListings options provider paths) := by
  apply (SourceListing.readPaths_step paths).bind
  intro paths
  split <;> exact Step.pure _

theorem Procedure.readCode_step (index : Nat) (code : Section) :
    Step phase (readCode index code) := by
  unfold readCode
  split
  · exact Step.part? code (Step.sectionWords _)
  · exact Step.throw_phase (fun phase => .malformed phase (.raggedCode index code.count))
      (LoadError.stamped_of rfl fun _ _ _ => by simp) _

end Sections

end CompiledModule
