import CompiledModule.Image
import CompiledModule.Proofs.Failing.Course
import CompiledModule.Proofs.Reading.Results

namespace CompiledModule

/-!
# Where an error is placed

Every error of a load says where it was found.  An error that a step raises by itself names the
phase of the step.  An error of a layout is never handed out bare: it is placed once, in the block
that was being laid out and in the phase that this block is read in.  When the block belongs to a
procedure, its number tells how far the load had come: everything in front of the procedures had
been read, all procedures with a lower number had been loaded, and of this one only the data was
left.
-/

/-- The error names a phase in which something is left to be done, or it is an error of a layout
that is placed in one of certain blocks. -/
inductive LoadError.Placed (blocks : DataBlock → Prop) : LoadError → Prop
  | stamped {phase : Phase} {error : LoadError} (early : phase ≠ .ready)
    (stamped : error.Stamped phase) : Placed blocks error
  | inBlock {block : DataBlock} (among : blocks block) (reason : LayoutError) :
    Placed blocks (.inBlock block.phase block (.layout reason))

namespace LoadError

variable {blocks : DataBlock → Prop} {error : LoadError} {phase : Phase}

/-- An error that names a phase and no block is its own root, and no error of a layout. -/
theorem Stamped.root_ne (stamped : error.Stamped phase) (reason : LayoutError) :
    error.root ≠ .layout reason := by
  intro same
  cases error with
  | inBlock place block cause => exact stamped.unplaced ⟨place, block, cause, rfl⟩
  | layout other => cases stamped.phase
  | _ => cases same

theorem Placed.names_phase (placed : error.Placed blocks) :
    ∃ phase, error.phase = some phase ∧ phase ≠ .ready := by
  cases placed with
  | stamped early stamped => exact ⟨_, stamped.phase, early⟩
  | @inBlock block among reason =>
    refine ⟨block.phase, rfl, ?_⟩
    cases block <;> simp [DataBlock.phase]

theorem Placed.ne_layout (placed : error.Placed blocks) (reason : LayoutError) :
    error ≠ .layout reason := by
  rintro rfl
  rcases placed.names_phase with ⟨_, named, _⟩
  cases named

/-- The errors that are placed in a block are the errors of a layout. -/
theorem Placed.inBlock_iff (placed : error.Placed blocks) :
    Pass.InBlock error ↔ ∃ reason, error.root = .layout reason := by
  cases placed with
  | stamped early stamped =>
    constructor
    · intro inBlock
      exact absurd inBlock stamped.unplaced
    · rintro ⟨reason, same⟩
      exact absurd same (stamped.root_ne reason)
  | inBlock among reason =>
    constructor
    · intro _
      exact ⟨reason, rfl⟩
    · intro _
      exact ⟨_, _, _, rfl⟩

theorem Placed.of_inBlock {place : Phase} {block : DataBlock} {cause : LoadError}
    (placed : (LoadError.inBlock place block cause).Placed blocks) :
    blocks block ∧ place = block.phase ∧ ∃ reason, cause = .layout reason := by
  cases placed with
  | stamped early stamped => exact absurd ⟨place, block, cause, rfl⟩ stamped.unplaced
  | inBlock among reason => exact ⟨among, rfl, reason, rfl⟩

end LoadError

namespace Load

variable {blocks : DataBlock → Prop}

/-- Whatever a step fails with names the phase of the step. -/
theorem Step.stamped {phase : Phase} {action : Load α} (step : Step phase action)
    {reader after : Reader} {error : LoadError} (here : reader.phase = phase)
    (failed : action reader = .error error after) : error.Stamped phase := by
  induction step generalizing reader with
  | seek offset =>
    rw [seek_start_eq, moveTo] at failed
    split at failed
    · split at failed
      · cases failed
      · split at failed <;> cases failed
        exact LoadError.stamped_of (congrArg some here) fun _ _ _ => by simp
    · cases failed
      exact LoadError.stamped_of (congrArg some here) fun _ _ _ => by simp
  | take count =>
    unfold Load.take at failed
    split at failed <;> cases failed
    exact LoadError.stamped_of (congrArg some here) fun _ _ _ => by simp
  | quiet _ stamped => exact stamped reader error after here failed
  | bind first rest ih ih' =>
    rcases run_bind_eq_error.mp failed with failed | ⟨value, middle, began, went⟩
    · exact ih here failed
    · have stayed := first.phase_left reader
      rw [began] at stayed
      exact ih' value (stayed.trans here) went

theorem normalize_eq_error {pass : Pass} {spaces : List VariableSpace} {phase : Phase}
    {block : DataBlock} {vars : List Variable} {workspace : Workspace} {reader after : Reader}
    {error : LoadError}
    (failed : normalize pass spaces phase block vars workspace reader = .error error after) :
    ∃ left, pass.run spaces phase block vars workspace = .error error left := by
  unfold normalize at failed
  split at failed <;> cases failed
  exact ⟨_, by assumption⟩

theorem normalize_eq_ok {pass : Pass} {spaces : List VariableSpace} {phase : Phase}
    {block : DataBlock} {vars : List Variable} {workspace edited : Workspace}
    {reader after : Reader}
    (ended : normalize pass spaces phase block vars workspace reader = .ok edited after) :
    pass.run spaces phase block vars workspace = .ok () edited := by
  unfold normalize at ended
  split at ended <;> cases ended
  assumption

/-- Whatever a load fails with on its course is placed. -/
theorem Course.placed {phase later : Phase} {action : Load α}
    (course : Course blocks phase action later) {reader after : Reader} {error : LoadError}
    (here : reader.phase = phase) (failed : action reader = .error error after) :
    error.Placed blocks := by
  induction course generalizing reader with
  | step early step => exact .stamped early (step.stamped here failed)
  | done phase value => cases failed
  | enter phase next => cases failed
  | layout block among phase pass spaces vars workspace =>
    rcases normalize_eq_error failed with ⟨left, ran⟩
    rcases Pass.placed_of_run_error ran with ⟨reason, rfl⟩
    exact .inBlock among reason
  | ofPhase rest ih =>
    subst here
    exact ih rfl failed
  | bind first rest ih ih' =>
    rcases run_bind_eq_error.mp failed with failed | ⟨value, middle, began, went⟩
    · exact ih here failed
    · exact ih' value (first.phase_left here began) went

end Load

/-! ## The data of a procedure -/

namespace Procedure

variable {spaces : List VariableSpace} {ids : IdTable} {pass : Pass}

/-- The pass over one of the two blocks of a procedure fails, and if it is the second one, the pass
over the first one does not. -/
inductive Refused (spaces : List VariableSpace) (pass : Pass) (sizes : SizeCache) (index : Nat)
    (parts : ProcedureParts) : DataBlock → LoadError → Prop
  | inPrivate {error : LoadError} {left : Workspace}
    (failed : pass.run spaces .procedures (.privateData index) parts.privateVars
      ⟨sizes, parts.privateData.getD []⟩ = .error error left) :
    Refused spaces pass sizes index parts (.privateData index) error
  | inPublic {error : LoadError} {edited left : Workspace}
    (laid : pass.run spaces .procedures (.privateData index) parts.privateVars
      ⟨sizes, parts.privateData.getD []⟩ = .ok () edited)
    (failed : pass.run spaces .procedures (.publicData index) parts.publicVars
      ⟨edited.sizes, parts.publicData.getD []⟩ = .error error left) :
    Refused spaces pass sizes index parts (.publicData index) error

theorem Refused.placed {sizes : SizeCache} {index : Nat} {parts : ProcedureParts}
    {block : DataBlock} {error : LoadError}
    (refused : Refused spaces pass sizes index parts block error) :
    ∃ reason, error = .inBlock .procedures block (.layout reason) := by
  cases refused with
  | inPrivate failed => exact Pass.placed_of_run_error failed
  | inPublic laid failed => exact Pass.placed_of_run_error failed

variable [Memory]

/-- When a procedure is not loaded because of a block, its parts have been read and the pass over
one of its blocks fails. -/
theorem refused_of_load_error {sizes : SizeCache} {index : Nat} {shape : ProcedureShape}
    {reader after : Reader} {error : LoadError} (here : reader.phase = .procedures)
    (failed : load spaces ids pass sizes index shape reader = .error error after)
    (inBlock : Pass.InBlock error) :
    ∃ parts behind block, readParts index shape reader = .ok parts behind ∧
      Refused spaces pass sizes index parts block error := by
  rw [load_eq_readParts] at failed
  have step : Load.Step .procedures (readParts index shape) := readParts_step index shape
  rcases run_bind_eq_error.mp failed with failed | ⟨parts, behind, read, failed⟩
  · exact absurd inBlock (step.stamped here failed).unplaced
  have stayed := step.phase_left reader
  rw [read] at stayed
  have inPhase : behind.phase = .procedures := stayed.trans here
  rcases run_bind_eq_error.mp failed with failed | ⟨_, _, got, failed⟩
  · cases failed
  cases got
  rw [inPhase] at failed
  rcases run_bind_eq_error.mp failed with failed | ⟨edited, middle, laid, failed⟩
  · rcases Load.normalize_eq_error failed with ⟨left, ran⟩
    exact ⟨parts, behind, .privateData index, read, .inPrivate ran⟩
  rcases run_bind_eq_error.mp failed with failed | ⟨_, _, _, impossible⟩
  · rcases Load.normalize_eq_error failed with ⟨left, ran⟩
    exact ⟨parts, behind, .publicData index, read, .inPublic (Load.normalize_eq_ok laid) ran⟩
  · cases impossible

theorem length_loadEach {shapes : List ProcedureShape} {sizes last : SizeCache} {first : Nat}
    {reader after : Reader} {procedures : List Procedure}
    (ended : loadEach spaces ids pass sizes first shapes reader = .ok (procedures, last) after) :
    procedures.length = shapes.length := by
  induction shapes generalizing sizes first reader procedures with
  | nil =>
    cases ended
    rfl
  | cons shape rest ih =>
    rcases run_bind_eq_ok.mp ended with ⟨⟨procedure, found⟩, middle, _, ended⟩
    rcases run_bind_eq_ok.mp ended with ⟨⟨others, sizes⟩, last, went, ended⟩
    cases ended
    exact congrArg (· + 1) (ih went)

/-- When procedures are not all loaded, those below the first one that is not have been. -/
theorem below_of_loadAll_error {shapes : List ProcedureShape} {sizes : SizeCache} {first : Nat}
    {reader after : Reader} {error : LoadError} (here : reader.phase = .procedures)
    (failed : loadAll spaces ids pass sizes first shapes reader = .error error after) :
    ∃ count shape below known next stopped, shapes[count]? = some shape ∧
      loadEach spaces ids pass sizes first (shapes.take count) reader = .ok (below, known) next ∧
      next.phase = .procedures ∧
      load spaces ids pass known (first + count) shape next = .error error stopped := by
  induction shapes generalizing sizes first reader with
  | nil => cases failed
  | cons shape rest ih =>
    rcases run_bind_eq_error.mp failed with failed | ⟨⟨procedure, found⟩, middle, began, failed⟩
    · exact ⟨0, shape, [], sizes, reader, after, rfl, rfl, here, failed⟩
    have course : Load.Course (fun _ => True) .procedures
        (load spaces ids pass sizes first shape) .procedures :=
      load_course shape sizes trivial trivial
    have inPhase := course.phase_left here began
    rcases run_bind_eq_error.mp failed with failed | ⟨_, _, _, impossible⟩
    · rcases ih inPhase failed with
        ⟨count, other, below, known, next, stopped, shaped, loaded, stays, failed⟩
      refine ⟨count + 1, other, procedure :: below, known, next, stopped, shaped, ?_, stays, ?_⟩
      · exact run_bind_eq_ok.mpr ⟨_, _, began, run_bind_eq_ok.mpr ⟨_, _, loaded, rfl⟩⟩
      · rw [← failed, Nat.add_right_comm, Nat.add_assoc]
    · cases impossible

end Procedure

/-! ## Loads -/

/-- Where a load stands when it comes to the data of a procedure: what it has read in front of the
procedures, the procedures below this one with the sizes that are known by then, and the parts of
this one, each with the reader behind it. -/
structure Standstill where
  start : Reader
  front : Front
  behindFront : Reader
  below : List Procedure
  sizes : SizeCache
  behindBelow : Reader
  shape : ProcedureShape
  parts : ProcedureParts
  behindParts : Reader

/-- The load has come so far: it stands in front of the data of procedure number `index`, which is
one of the procedures that the header counts, and one block of that data is refused. -/
structure Standstill.Reached [Memory] (options : LoadOptions) (provider : SourceProvider)
    (stream : Stream) (base index : Nat) (block : DataBlock) (error : LoadError)
    (stop : Standstill) : Prop where
  opened : Reader.open? stream base = .ok stop.start
  front : LoadedModule.readFront options provider stop.start = .ok stop.front stop.behindFront
  counted : index < stop.front.header.procedures.count.toNat
  shaped : stop.front.shapes[index]? = some stop.shape
  loaded : Procedure.loadEach stop.front.spaces stop.front.ids options.pass stop.front.locals.sizes
    0 (stop.front.shapes.take index) stop.behindFront = .ok (stop.below, stop.sizes) stop.behindBelow
  allBelow : stop.below.length = index
  read : Procedure.readParts index stop.shape stop.behindBelow = .ok stop.parts stop.behindParts
  refused : Procedure.Refused stop.front.spaces options.pass stop.sizes index stop.parts block error

def DataBlock.procedure? : DataBlock → Option Nat
  | globals => none
  | locals => none
  | privateData procedure => some procedure
  | publicData procedure => some procedure

namespace LoadedModule

/-- What the opening of a reader fails with belongs to the header. -/
theorem placed_of_open_error {blocks : DataBlock → Prop} {stream : Stream} {base : Nat}
    {error : LoadError} (failed : Reader.open? stream base = .error error) :
    error.Placed blocks := by
  have named : error.phase = some .header ∧
      ∀ place block cause, error ≠ .inBlock place block cause := by
    unfold Reader.open? at failed
    cases atEnd : stream.seekEnd with
    | error fault =>
      rw [atEnd] at failed
      cases failed
      exact ⟨rfl, fun _ _ _ => by simp⟩
    | ok last =>
      rw [atEnd] at failed
      change (if last.cursor < base then _ else _ : Except LoadError Reader) = _ at failed
      split at failed
      · cases failed
        exact ⟨rfl, fun _ _ _ => by simp⟩
      · cases atBase : last.seek base with
        | error fault =>
          rw [atBase] at failed
          cases failed
          exact ⟨rfl, fun _ _ _ => by simp⟩
        | ok first =>
          rw [atBase] at failed
          cases failed
  exact .stamped (by decide) (LoadError.stamped_of named.1 named.2)

section Loads

variable [Memory] {options : LoadOptions} {host : HostTable} {provider : SourceProvider}
  {stream : Stream} {base : Nat}

/-- There are as many shapes as the header counts procedures. -/
theorem readFront_gives (options : LoadOptions) (provider : SourceProvider) :
    Load.Gives (readFront options provider) fun front =>
      front.shapes.length = front.header.procedures.count.toNat := by
  unfold readFront
  apply Load.Gives.skip
  intro header
  apply Load.Gives.skip
  intro _
  apply (Load.Gives.records header.procedures _ ProcedureShape.format).bind
  intro shapes length
  iterate 23 refine Load.Gives.skip fun _ => ?_
  exact Load.Gives.pure length

theorem load_of_opened {start : Reader}
    (opened : Reader.open? stream base = .ok start) :
    load options host provider stream base = outcomeOf (read options host provider start) := by
  unfold load
  rw [opened]
  simp only [bind, Except.bind]
  cases read options host provider start <;> rfl

theorem load_of_unopened {error : LoadError}
    (failed : Reader.open? stream base = .error error) :
    load options host provider stream base = .error error := by
  unfold load
  rw [failed]
  rfl

/-- A load that fails has failed while the reader was opened, or behind that. -/
theorem load_eq_error {error : LoadError} :
    load options host provider stream base = .error error ↔
      Reader.open? stream base = .error error ∨ ∃ start after,
        Reader.open? stream base = .ok start ∧
          read options host provider start = .error error after := by
  cases opened : Reader.open? stream base with
  | error other =>
    rw [load_of_unopened opened]
    constructor
    · intro same
      cases same
      exact Or.inl rfl
    · rintro (same | ⟨_, _, impossible, _⟩)
      · cases same
        rfl
      · cases impossible
  | ok start =>
    rw [load_of_opened opened, outcomeOf_eq_error]
    constructor
    · rintro ⟨after, failed⟩
      exact Or.inr ⟨start, after, rfl, failed⟩
    · rintro (impossible | ⟨_, after, same, failed⟩)
      · cases impossible
      · cases same
        exact ⟨after, failed⟩

theorem placed_of_load_error {error : LoadError}
    (failed : load options host provider stream base = .error error) :
    error.Placed fun _ => True := by
  rcases load_eq_error.mp failed with failed | ⟨start, after, _, failed⟩
  · exact placed_of_open_error failed
  · exact (read_course options host provider start.phase).placed rfl failed

/-- A load that fails in a block of a procedure has come to a standstill there. -/
theorem standstill_of_load_error {index : Nat} {phase : Phase} {block : DataBlock}
    {cause : LoadError} (ofProcedure : block.procedure? = some index)
    (failed : load options host provider stream base = .error (.inBlock phase block cause)) :
    ∃ stop : Standstill, stop.Reached options provider stream base index block
      (.inBlock phase block cause) := by
  have placed : Pass.InBlock (.inBlock phase block cause) := ⟨phase, block, cause, rfl⟩
  rcases load_eq_error.mp failed with failed | ⟨start, after, opened, failed⟩
  · have nowhere : (LoadError.inBlock phase block cause).Placed fun _ => False :=
      placed_of_open_error failed
    exact nowhere.of_inBlock.1.elim
  rw [read_eq_readFront] at failed
  -- In front of the procedures only the globals and the locals are laid out.
  rcases run_bind_eq_error.mp failed with failed | ⟨front, behindFront, wasFront, failed⟩
  · have early := ((readFront_course options provider start.phase).placed rfl failed).of_inBlock.1
    rcases early with rfl | rfl <;> cases ofProcedure
  have inPhase := (readFront_course options provider start.phase).phase_left rfl wasFront
  rcases run_bind_eq_error.mp failed with failed | ⟨procedures, behind, all, failed⟩
  · rcases Procedure.below_of_loadAll_error inPhase failed with
      ⟨count, shape, below, known, next, stopped, shaped, loaded, stays, failed⟩
    rw [Nat.zero_add] at failed
    rcases Procedure.refused_of_load_error stays failed placed with
      ⟨parts, behindParts, which, read, refused⟩
    rcases refused.placed with ⟨reason, same⟩
    cases same
    have number : index = count := by
      cases refused <;> cases ofProcedure <;> rfl
    subst number
    have length := (readFront_gives options provider).holds wasFront
    have inside : index < front.shapes.length := (List.getElem?_eq_some_iff.mp shaped).1
    refine ⟨⟨start, front, behindFront, below, known, next, shape, parts, behindParts⟩,
      opened, wasFront, length ▸ inside, shaped, loaded, ?_, read, refused⟩
    rw [Procedure.length_loadEach loaded, List.length_take, Nat.min_eq_left (Nat.le_of_lt inside)]
  · -- Behind the procedures nothing is laid out.
    have course : Load.Course (fun _ => True) .procedures (readProcedures options front)
        .procedures :=
      Procedure.loadAll_course front.shapes _ 0 (fun _ => trivial) fun _ => trivial
    have late : Load.Course (fun _ => False) .procedures
        (readCalls options host front procedures) .ready := readCalls_course options host front _
    exact (late.placed (course.phase_left inPhase all) failed).of_inBlock.1.elim

/-- Every error of a load says where it was found.  It names a phase in which something is left to
be done.  The errors of a layout are never handed out bare: an error is placed in a block exactly
when its root is one of them, and then it is placed once, is the module's fault, and names the phase
that the block belongs to.  A block of a procedure is one that the header counts, and the load had
come to its data. -/
theorem load_error_placed {error : LoadError}
    (failed : load options host provider stream base = .error error) :
    (∃ phase, error.phase = some phase ∧ phase ≠ .ready) ∧
      (∀ reason, error ≠ .layout reason) ∧
      ((∃ phase block cause, error = .inBlock phase block cause) ↔
        ∃ reason, error.root = .layout reason) ∧
      ∀ phase block cause, error = .inBlock phase block cause →
        (∃ reason, cause = .layout reason) ∧ error.kind = .format ∧ phase = block.phase ∧
          ∀ index, block.procedure? = some index →
            ∃ stop : Standstill, stop.Reached options provider stream base index block error := by
  have placed := placed_of_load_error failed
  refine ⟨placed.names_phase, placed.ne_layout, placed.inBlock_iff, ?_⟩
  rintro phase block cause rfl
  rcases placed.of_inBlock with ⟨_, same, reason, rfl⟩
  refine ⟨⟨reason, rfl⟩, rfl, same, ?_⟩
  intro index ofProcedure
  exact standstill_of_load_error ofProcedure failed

end Loads

/-- Whether a computation has failed in a certain way can be seen, whatever it computes. -/
instance [DecidableEq ε] (outcome : Except ε α) (error : ε) : Decidable (outcome = .error error) :=
  match outcome with
  | .ok _ => isFalse (by simp)
  | .error other => decidable_of_iff (other = error) (by simp)

/-- Two procedures with data of their own, of which the second has a public variable that is larger
than its public data. -/
def overrunning : Image where
  version := Header.currentVersion
  ids := []
  strings := []
  files := []
  imports := []
  globalData := []
  globalVars := []
  localData := []
  localVars := []
  localStrings := []
  spaces := []
  sourceFiles := []
  systemCalls := []
  procedures := [
    ⟨1, 0, 0, [7], [⟨.ofBase (.scalar .byte), 0, 0, 0⟩], [], [], [], [], [], 0, 0⟩,
    ⟨2, 0, 0, [7], [⟨.ofBase (.scalar .byte), 0, 0, 0⟩], [],
      [8, 9], [⟨.ofBase (.scalar .int), 0, 0, 0⟩], [], [], 0, 0⟩]

theorem load_overrunning :
    load .standard [] (fun _ => none) (.ofBytes overrunning.encode) 0 =
      .error (.inBlock .procedures (.publicData 1) (.layout (.overrun 0 4 2))) := by
  decide +kernel

theorem load_overrunning_placed :
    load .standard [] (fun _ => none) (.ofBytes overrunning.encode) 0 =
        .error (.inBlock .procedures (.publicData 1) (.layout (.overrun 0 4 2))) ∧
      ∃ stop : Standstill, stop.Reached .standard (fun _ => none) (.ofBytes overrunning.encode) 0 1
        (.publicData 1) (.inBlock .procedures (.publicData 1) (.layout (.overrun 0 4 2))) := by
  have placed := load_error_placed load_overrunning
  rcases placed.2.2.2 _ _ _ rfl with ⟨_, _, _, standstill⟩
  exact ⟨load_overrunning, standstill 1 rfl⟩

end LoadedModule

end CompiledModule
