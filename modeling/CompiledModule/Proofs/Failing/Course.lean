import CompiledModule.Proofs.Failing.Steps
import CompiledModule.Proofs.Reading.Apart

namespace CompiledModule

/-!
# The course of a load

A load takes its steps one after another and enters a phase before each of them.  Between the steps
it lays out blocks of data, whose errors name the block and the phase that the block belongs to,
which need not be the phase that the reader is in by then.

The procedures are the middle of a load.  What is read in front of them, up to the listings, is put
together in `Front`; what is read of each procedure is taken apart from its layout; and behind the
procedures only the system calls are left.
-/

def DataBlock.phase : DataBlock → Phase
  | globals => .globalVars
  | locals => .localVars
  | privateData _ => .procedures
  | publicData _ => .procedures

namespace Load

/-- What goes from one phase to another by steps, and by layouts of certain blocks between them.  In
the last phase nothing is left to be done. -/
inductive Course (blocks : DataBlock → Prop) : {α : Type} → Phase → Load α → Phase → Prop
  | step {α : Type} {action : Load α} {phase : Phase} (early : phase ≠ .ready)
    (step : Step phase action) : Course blocks phase action phase
  | done {α : Type} (phase : Phase) (value : α) : Course blocks phase (pure value) phase
  | enter (phase next : Phase) : Course blocks phase (enter next) next
  | layout (block : DataBlock) (among : blocks block) (phase : Phase) (pass : Pass)
    (spaces : List VariableSpace) (vars : List Variable) (workspace : Workspace) :
    Course blocks phase (normalize pass spaces block.phase block vars workspace) phase
  | ofPhase {α : Type} {next : Phase → Load α} {phase later : Phase}
    (rest : Course blocks phase (next phase) later) :
    Course blocks phase (get >>= fun reader => next reader.phase) later
  | bind {α β : Type} {action : Load α} {next : α → Load β} {phase middle later : Phase}
    (first : Course blocks phase action middle)
    (rest : ∀ value, Course blocks middle (next value) later) :
    Course blocks phase (action >>= next) later

namespace Course

variable {blocks more : DataBlock → Prop}

theorem mono {action : Load α} {phase later : Phase} (course : Course blocks phase action later)
    (implies : ∀ block, blocks block → more block) : Course more phase action later := by
  induction course with
  | step early step => exact .step early step
  | done phase value => exact .done phase value
  | enter phase next => exact .enter phase next
  | layout block among phase pass spaces vars workspace =>
    exact .layout block (implies block among) phase pass spaces vars workspace
  | ofPhase _ ih => exact .ofPhase ih
  | bind _ _ ih ih' => exact .bind ih ih'

/-- The next phase is entered, and there is something left to be done in it. -/
theorem enter_bind {next : Unit → Load α} {phase middle later : Phase}
    (rest : Course blocks middle (next ()) later) :
    Course blocks phase (Load.enter middle >>= next) later :=
  .bind (.enter phase middle) fun _ => rest

/-- A step is taken, and the phase goes on. -/
theorem step_bind {action : Load α} {next : α → Load β} {phase later : Phase}
    (early : phase ≠ .ready) (step : Step phase action)
    (rest : ∀ value, Course blocks phase (next value) later) :
    Course blocks phase (action >>= next) later :=
  .bind (.step early step) rest

/-- A course that is gone through ends in its last phase. -/
theorem phase_left {phase later : Phase} {action : Load α}
    (course : Course blocks phase action later) {reader after : Reader} {value : α}
    (here : reader.phase = phase) (ended : action reader = .ok value after) :
    after.phase = later := by
  induction course generalizing reader after with
  | step early step =>
    have stayed := step.phase_left reader
    rw [ended] at stayed
    exact stayed.trans here
  | done phase value =>
    cases ended
    exact here
  | enter phase next =>
    cases ended
    rfl
  | layout block among phase pass spaces vars workspace =>
    unfold normalize at ended
    split at ended <;> cases ended
    exact here
  | ofPhase rest ih =>
    subst here
    exact ih rfl ended
  | bind first rest ih ih' =>
    rcases run_bind_eq_ok.mp ended with ⟨middle, between, began, went⟩
    exact ih' middle (ih here began) went

end Course

end Load

/-! ## Procedures -/

namespace Procedure

variable [Memory]

/-- Reads everything of procedure number `index` that its shape tells of. -/
def readParts (index : Nat) (shape : ProcedureShape) : Load ProcedureParts := do
  let privateData ← shape.privateData.part? Section.bytes
  let publicData ← shape.publicData.part? Section.bytes
  let code ← readCode index shape.code
  let privateStrings ← shape.privateStrings.words
  let publicStrings ← shape.publicStrings.words
  let privateVars ← Variable.readTable shape.privateVars
  let publicVars ← Variable.readTable shape.publicVars
  return { privateData, publicData, code, privateStrings, publicStrings, privateVars, publicVars }

/-- Lays out the two blocks of a procedure that has been read. -/
def layOut (spaces : List VariableSpace) (ids : IdTable) (pass : Pass) (sizes : SizeCache)
    (index : Nat) (shape : ProcedureShape) (parts : ProcedureParts) (phase : Phase) :
    Load (Procedure × SizeCache) := do
  let privateBlock ← Load.normalize pass spaces phase (.privateData index) parts.privateVars
    ⟨sizes, parts.privateData.getD []⟩
  let publicBlock ← Load.normalize pass spaces phase (.publicData index) parts.publicVars
    ⟨privateBlock.sizes, parts.publicData.getD []⟩
  return (assemble ids index shape parts privateBlock.bytes publicBlock.bytes, publicBlock.sizes)

def loadEach (spaces : List VariableSpace) (ids : IdTable) (pass : Pass) :
    (sizes : SizeCache) → (index : Nat) → List ProcedureShape → Load (List Procedure × SizeCache)
  | sizes, _, [] => pure ([], sizes)
  | sizes, index, shape :: rest => do
    let (procedure, found) ← load spaces ids pass sizes index shape
    let (others, last) ← loadEach spaces ids pass found (index + 1) rest
    return (procedure :: others, last)

variable {spaces : List VariableSpace} {ids : IdTable} {pass : Pass}

theorem load_eq_readParts (sizes : SizeCache) (index : Nat) (shape : ProcedureShape) :
    load spaces ids pass sizes index shape = (do
      let parts ← readParts index shape
      let reader ← get
      layOut spaces ids pass sizes index shape parts reader.phase) := by
  unfold load readParts
  simp only [bind_assoc, pure_bind, bind_handlerAt]
  rfl

theorem readParts_step {phase : Phase} (index : Nat) (shape : ProcedureShape) :
    Load.Step phase (readParts index shape) := by
  apply (Load.Step.part? _ (.sectionBytes _)).bind
  intro privateData
  apply (Load.Step.part? _ (.sectionBytes _)).bind
  intro publicData
  apply (readCode_step index shape.code).bind
  intro code
  apply (Load.Step.sectionWords _).bind
  intro privateStrings
  apply (Load.Step.sectionWords _).bind
  intro publicStrings
  apply (Load.Step.records _ _ _).bind
  intro privateVars
  apply (Load.Step.records _ _ _).bind
  intro publicVars
  exact .pure _

theorem load_course {blocks : DataBlock → Prop} {index : Nat} (shape : ProcedureShape)
    (sizes : SizeCache) (ofPrivate : blocks (.privateData index))
    (ofPublic : blocks (.publicData index)) :
    Load.Course blocks .procedures (load spaces ids pass sizes index shape) .procedures := by
  rw [load_eq_readParts]
  apply Load.Course.step_bind (by decide) (readParts_step index shape)
  intro parts
  apply Load.Course.ofPhase
  refine .bind (.layout (.privateData index) ofPrivate _ _ _ _ _) fun privateBlock => ?_
  refine .bind (.layout (.publicData index) ofPublic _ _ _ _ _) fun publicBlock => ?_
  exact .done _ _

theorem loadAll_course {blocks : DataBlock → Prop} (shapes : List ProcedureShape)
    (sizes : SizeCache) (first : Nat) (ofPrivate : ∀ index, blocks (.privateData index))
    (ofPublic : ∀ index, blocks (.publicData index)) :
    Load.Course blocks .procedures (loadAll spaces ids pass sizes first shapes) .procedures := by
  induction shapes generalizing sizes first with
  | nil => exact .done _ []
  | cons shape rest ih =>
    unfold loadAll
    apply (load_course shape sizes (ofPrivate first) (ofPublic first)).bind
    rintro ⟨procedure, found⟩
    exact (ih found (first + 1)).bind fun _ => .done _ _

end Procedure

/-! ## Modules -/

/-- What has been read and laid out of a module before its procedures are read. -/
structure Front where
  header : Header
  shapes : List ProcedureShape
  strings : StringPool
  files : List EmbeddedFile
  imports : List UInt32
  ids : IdTable
  globalVars : List Variable
  localVars : List Variable
  localStrings : List UInt32
  spaces : List VariableSpace
  globals : Workspace
  locals : Workspace
  listings : List SourceListing

namespace LoadedModule

variable [Memory]

/-- Reads everything in front of the procedures, enters their phase, and makes room for them. -/
def readFront (options : LoadOptions) (provider : SourceProvider) : Load Front := do
  let header ← Header.read options.minimumVersion
  Load.enter .shapeTable
  let shapes ← ProcedureShape.readTable header.procedures
  Load.enter .strings
  let strings ← StringPool.read header.strings header.text
  Load.enter .includedFiles
  let files ← EmbeddedFile.readTable header.files
  Load.enter .imports
  let imports ← header.imports.words
  Load.enter .idTable
  let ids ← IdTable.read header.ids
  Load.enter .globalVars
  let globalData ← header.globalData.bytes
  let globalVars ← Variable.readTable header.globalVars
  Load.enter .localVars
  let localData ← header.localData.bytes
  let localVars ← Variable.readTable header.localVars
  let localStrings ← header.localStrings.words
  Load.enter .variableSpaces
  let spaces ← VariableSpace.readAll header.spaces
  let globals ← Load.normalize options.pass spaces .globalVars .globals globalVars
    ⟨[], globalData⟩
  let locals ← Load.normalize options.pass spaces .localVars .locals localVars
    ⟨globals.sizes, localData⟩
  Load.enter .sourceListings
  let listings ← readListings options provider header.sourceFiles
  Load.enter .procedures
  Load.allocate .procedure shapes.length
  return {
    header, shapes, strings, files, imports, ids, globalVars, localVars, localStrings, spaces,
    globals, locals, listings }

/-- Reads the system calls behind the procedures, and puts the module together. -/
def readCalls (options : LoadOptions) (host : HostTable) (front : Front)
    (procedures : List Procedure) : Load LoadedModule := do
  Load.enter .relocation
  let calls ← SystemCall.readTable front.header.systemCalls
  Load.enter .ready
  let systemCalls := SystemCall.relocate host front.ids calls
  let procedureIndex := FirstIndex.ofKeys (procedures.map Procedure.name)
  return {
    header := front.header
    procedures, procedureIndex
    entryIndex := procedureIndex[options.entryPoint]?
    globalData := front.globals.bytes
    localData := front.locals.bytes
    globalVars := front.globalVars
    localVars := front.localVars
    localStrings := front.localStrings
    spaces := front.spaces
    ids := front.ids
    strings := front.strings
    files := front.files
    imports := front.imports
    listings := front.listings
    systemCalls
    callIndex := FirstIndex.ofKeys (systemCalls.map SystemCall.callCode) }

def readProcedures (options : LoadOptions) (front : Front) : Load (List Procedure) :=
  Procedure.loadAll front.spaces front.ids options.pass front.locals.sizes 0 front.shapes

theorem read_eq_readFront (options : LoadOptions) (host : HostTable) (provider : SourceProvider) :
    read options host provider = (do
      let front ← readFront options provider
      let procedures ← readProcedures options front
      readCalls options host front procedures) := by
  unfold read readFront Procedure.loadTable
  simp only [bind_assoc, pure_bind]
  rfl

theorem readFront_course (options : LoadOptions) (provider : SourceProvider) (phase : Phase) :
    Load.Course (fun block => block = .globals ∨ block = .locals) phase
      (readFront options provider) .procedures := by
  unfold readFront
  rcases Header.read_eq_enter options.minimumVersion with ⟨rest, same, step⟩
  rw [same, bind_assoc]
  apply Load.Course.enter_bind
  apply Load.Course.step_bind (by decide) (step ())
  intro header
  apply Load.Course.enter_bind
  apply Load.Course.step_bind (by decide) (.records _ _ _)
  intro shapes
  apply Load.Course.enter_bind
  apply Load.Course.step_bind (by decide) (StringPool.read_step _ _)
  intro strings
  apply Load.Course.enter_bind
  apply Load.Course.step_bind (by decide) (EmbeddedFile.readTable_step _)
  intro files
  apply Load.Course.enter_bind
  apply Load.Course.step_bind (by decide) (.sectionWords _)
  intro imports
  apply Load.Course.enter_bind
  apply Load.Course.step_bind (by decide) (IdTable.read_step _)
  intro ids
  apply Load.Course.enter_bind
  apply Load.Course.step_bind (by decide) (.sectionBytes _)
  intro globalData
  apply Load.Course.step_bind (by decide) (.records _ _ _)
  intro globalVars
  apply Load.Course.enter_bind
  apply Load.Course.step_bind (by decide) (.sectionBytes _)
  intro localData
  apply Load.Course.step_bind (by decide) (.records _ _ _)
  intro localVars
  apply Load.Course.step_bind (by decide) (.sectionWords _)
  intro localStrings
  apply Load.Course.enter_bind
  apply Load.Course.step_bind (by decide) (VariableSpace.readAll_step _)
  intro spaces
  refine .bind (.layout .globals (Or.inl rfl) _ _ _ _ _) fun globals => ?_
  refine .bind (.layout .locals (Or.inr rfl) _ _ _ _ _) fun locals => ?_
  apply Load.Course.enter_bind
  apply Load.Course.step_bind (by decide) (readListings_step _ _ _)
  intro listings
  apply Load.Course.enter_bind
  apply Load.Course.step_bind (by decide) (.allocate _ _)
  intro _
  exact .done _ _

theorem readCalls_course {blocks : DataBlock → Prop} (options : LoadOptions) (host : HostTable)
    (front : Front) (procedures : List Procedure) :
    Load.Course blocks .procedures (readCalls options host front procedures) .ready := by
  apply Load.Course.enter_bind
  apply Load.Course.step_bind (by decide) (SystemCall.readTable_step _)
  intro calls
  apply Load.Course.enter_bind
  exact .done _ _

theorem read_course (options : LoadOptions) (host : HostTable) (provider : SourceProvider)
    (phase : Phase) :
    Load.Course (fun _ => True) phase (read options host provider) .ready := by
  rw [read_eq_readFront]
  apply ((readFront_course options provider phase).mono fun _ _ => trivial).bind
  intro front
  apply (Procedure.loadAll_course front.shapes _ 0 (fun _ => trivial) fun _ => trivial).bind
  intro procedures
  exact readCalls_course options host front procedures

end LoadedModule

end CompiledModule
