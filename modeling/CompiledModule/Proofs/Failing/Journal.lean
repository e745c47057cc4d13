import CompiledModule.Proofs.Failing.Course

namespace CompiledModule

/-!
# The journal of a load

What a load asks of its stream is to move and to be read.  Its journal lists these requests in
order, with the phases that it enters between them.  A step only asks, so a journal comes in parts:
one for each phase that the load comes to, in the order of the phases.

Which sections are read in a phase is known once the header has been read.  The part of a phase
lists what their reading asks for, from the place where the part before it has left the reader, and
nothing else.  The passes over the data that lie between two parts do not touch the stream.
-/

/-! ## Requests -/

/-- What a load asks of a stream: to move, or to read so many bytes from where it stands. -/
inductive StreamRequest where
  | toEnd
  | moveTo (place : Nat)
  | read (start count : Nat)
  deriving DecidableEq, Repr

/-- What a journal notes: the beginning of a phase, or a request. -/
inductive JournalEntry where
  | enters (phase : Phase)
  | asks (request : StreamRequest)
  deriving DecidableEq, Repr

abbrev Journal := List JournalEntry

/-- The phase behind a journal that begins in some phase. -/
def Journal.lastPhase : Phase → Journal → Phase
  | phase, [] => phase
  | _, .enters phase :: rest => lastPhase phase rest
  | phase, .asks _ :: rest => lastPhase phase rest

theorem Journal.lastPhase_append (phase : Phase) (journal rest : Journal) :
    lastPhase phase (journal ++ rest) = lastPhase (lastPhase phase journal) rest := by
  induction journal generalizing phase with
  | nil => rfl
  | cons entry others ih =>
    cases entry with
    | enters next => exact ih next
    | asks request => exact ih phase

structure JournalPart where
  phase : Phase
  requests : List StreamRequest

/-- The journal of phases that are entered one after another. -/
def Journal.ofParts (parts : List JournalPart) : Journal :=
  parts.flatMap fun part => .enters part.phase :: part.requests.map .asks

/-! ## Journals -/

/-- What a reader asks when it is sent to a place: nothing, unless the place is inside the module
and the reader stands somewhere else. -/
def Reader.movingJournal (reader : Reader) (place : Nat) : Journal :=
  if place ≤ reader.length ∧ place ≠ reader.position then [.asks (.moveTo (reader.base + place))]
  else []

/-- What is asked of a stream when a reader is opened: its end, and then the base, unless that lies
behind the end. -/
def Reader.openingJournal (stream : Stream) (base : Nat) : Journal :=
  if base ≤ stream.length then [.asks .toEnd, .asks (.moveTo base)] else [.asks .toEnd]

namespace Load

/-- What an action notes in its journal when a reader runs it.  Nothing is noted behind an error. -/
inductive Notes : {α : Type} → Load α → Reader → Journal → Prop
  | enter (phase : Phase) (reader : Reader) : Notes (enter phase) reader [.enters phase]
  | seek (offset : UInt32) (reader : Reader) :
    Notes (seek (.start offset)) reader (reader.movingJournal offset.toNat)
  | take (count : Nat) (reader : Reader) :
    Notes (take count) reader [.asks (.read reader.stream.cursor count)]
  | quiet {α : Type} {action : Load α} (quiet : Quiet action) (reader : Reader) :
    Notes action reader []
  | ofPhase {α : Type} {next : Phase → Load α} {reader : Reader} {journal : Journal}
    (rest : Notes (next reader.phase) reader journal) :
    Notes (get >>= fun reader => next reader.phase) reader journal
  | bind_ok {α β : Type} {action : Load α} {next : α → Load β} {reader middle : Reader} {value : α}
    {journal rest : Journal} (first : Notes action reader journal)
    (began : action reader = .ok value middle) (goesOn : Notes (next value) middle rest) :
    Notes (action >>= next) reader (journal ++ rest)
  | bind_error {α β : Type} {action : Load α} {next : α → Load β} {reader after : Reader}
    {error : LoadError} {journal : Journal} (first : Notes action reader journal)
    (failed : action reader = .error error after) : Notes (action >>= next) reader journal

/-! ## Asking within a phase -/

/-- The action asks what it asks without entering a phase. -/
def Asks (action : Load α) : Prop :=
  ∀ reader, ∃ requests : List StreamRequest, Notes action reader (requests.map .asks)

namespace Asks

theorem quiet {action : Load α} (quiet : Quiet action) : Asks action :=
  fun reader => ⟨[], .quiet quiet reader⟩

theorem pure (value : α) : Asks (pure value) :=
  quiet ⟨fun _ _ => rfl, fun _ => rfl⟩

theorem ofPhase {next : Phase → Load α} (rest : ∀ phase, Asks (next phase)) :
    Asks (get >>= fun reader => next reader.phase) := by
  intro reader
  rcases rest reader.phase reader with ⟨requests, notes⟩
  exact ⟨requests, notes.ofPhase⟩

theorem bind {action : Load α} {next : α → Load β} (first : Asks action)
    (rest : ∀ value, Asks (next value)) : Asks (action >>= next) := by
  intro reader
  rcases first reader with ⟨requests, notes⟩
  cases ran : action reader with
  | ok value middle =>
    rcases rest value middle with ⟨more, goesOn⟩
    refine ⟨requests ++ more, ?_⟩
    rw [List.map_append]
    exact notes.bind_ok ran goesOn
  | error error after => exact ⟨requests, notes.bind_error ran⟩

end Asks

theorem Step.asks {phase : Phase} {action : Load α} (step : Step phase action) : Asks action := by
  induction step with
  | seek offset =>
    intro reader
    have notes := Notes.seek offset reader
    unfold Reader.movingJournal at notes
    split at notes
    · exact ⟨[.moveTo (reader.base + offset.toNat)], notes⟩
    · exact ⟨[], notes⟩
  | take count => exact fun reader => ⟨[.read reader.stream.cursor count], .take count reader⟩
  | quiet quiet _ => exact Asks.quiet quiet
  | bind _ _ ih ih' => exact ih.bind ih'

/-- A pass over a block is made in memory. -/
theorem normalize_quiet (pass : Pass) (spaces : List VariableSpace) (phase : Phase)
    (block : DataBlock) (vars : List Variable) (workspace : Workspace) :
    Quiet (normalize pass spaces phase block vars workspace) where
  blind reader stream := by
    unfold normalize
    split <;> rfl
  phase reader := by
    unfold normalize
    split <;> rfl

/-! ## Parts of a journal -/

/-- Phases are taken one after another, each with a reading of its own.  What a reading asks for is
the part of its phase, and the next one begins where it has ended. -/
inductive Staged (reads : Phase → {α : Type} → Load α → Prop) :
    List Phase → Reader → List JournalPart → Prop
  | ended (phases : List Phase) (reader : Reader) : Staged reads phases reader []
  | next {phase : Phase} {rest : List Phase} {reader : Reader} {α : Type} {reading : Load α}
    {requests : List StreamRequest} {parts : List JournalPart} (among : reads phase reading)
    (notes : Notes reading { reader with phase } (requests.map .asks))
    (others : Staged reads rest (leftBy (reading { reader with phase })) parts) :
    Staged reads (phase :: rest) reader (⟨phase, requests⟩ :: parts)

/-- The journal of the action comes in parts, which these phases have. -/
def InParts (reads : Phase → {α : Type} → Load α → Prop) (phases : List Phase) (action : Load α)
    (reader : Reader) : Prop :=
  ∃ parts, Staged reads phases reader parts ∧ Notes action reader (.ofParts parts)

namespace InParts

variable {reads : Phase → {α : Type} → Load α → Prop} {phases : List Phase} {reader : Reader}

theorem pure (value : α) : InParts reads phases (pure value) reader :=
  ⟨[], .ended phases reader, .quiet ⟨fun _ _ => rfl, fun _ => rfl⟩ reader⟩

/-- A phase is entered and its sections are read. -/
theorem stage {phase : Phase} {reading : Load α} {next : α → Load β} (among : reads phase reading)
    (asks : Asks reading)
    (others : ∀ value middle, reading { reader with phase } = .ok value middle →
      InParts reads phases (next value) middle) :
    InParts reads (phase :: phases) (enter phase >>= fun _ => reading >>= next) reader := by
  rcases asks { reader with phase } with ⟨requests, notes⟩
  have entered : enter phase reader = .ok () { reader with phase } := rfl
  cases ran : reading { reader with phase } with
  | ok value middle =>
    rcases others value middle ran with ⟨parts, staged, goesOn⟩
    refine ⟨⟨phase, requests⟩ :: parts, .next among notes ?_, ?_⟩
    · rw [ran]
      exact staged
    · exact (Notes.enter phase reader).bind_ok entered (notes.bind_ok ran goesOn)
  | error error after =>
    refine ⟨[⟨phase, requests⟩], .next among notes (.ended phases _), ?_⟩
    have whole : Notes (enter phase >>= fun _ => reading >>= next) reader _ :=
      (Notes.enter phase reader).bind_ok entered (notes.bind_error ran)
    rwa [← List.append_nil (requests.map _)] at whole

/-- What leaves the reader alone leaves the journal alone, unless it ends it. -/
theorem between {action : Load α} {next : α → Load β} (quiet : Quiet action)
    (still : ∀ value after, action reader = .ok value after → after = reader)
    (others : ∀ value, action reader = .ok value reader →
      InParts reads phases (next value) reader) :
    InParts reads phases (action >>= next) reader := by
  cases ran : action reader with
  | ok value after =>
    cases still value after ran
    rcases others value ran with ⟨parts, staged, goesOn⟩
    exact ⟨parts, staged, (Notes.quiet quiet reader).bind_ok ran goesOn⟩
  | error error after =>
    exact ⟨[], .ended phases reader, (Notes.quiet quiet reader).bind_error ran⟩

theorem layout (pass : Pass) (spaces : List VariableSpace) (phase : Phase) (block : DataBlock)
    (vars : List Variable) (workspace : Workspace) {next : Workspace → Load β}
    (others : ∀ edited, InParts reads phases (next edited) reader) :
    InParts reads phases (normalize pass spaces phase block vars workspace >>= next) reader := by
  have quiet := normalize_quiet pass spaces phase block vars workspace
  apply between quiet _ fun edited _ => others edited
  intro value after ended
  unfold normalize at ended
  split at ended <;> cases ended
  rfl

theorem settle (outcome : Except LoadError α) {next : α → Load β}
    (others : ∀ value, outcome = .ok value → InParts reads phases (next value) reader) :
    InParts reads phases (CompiledModule.settle outcome >>= next) reader := by
  have quiet : Quiet (CompiledModule.settle outcome) :=
    Quiet.answer (fun _ => outcome) fun _ _ => rfl
  apply between quiet
  · intro value after ended
    exact (settle_eq_ok.mp ended).2
  · intro value ended
    exact others value (settle_eq_ok.mp ended).1

/-- Nothing is read in the last phase. -/
theorem last {phase : Phase} (among : reads phase (Pure.pure () : Load Unit)) (value : α) :
    InParts reads [phase] (enter phase >>= fun _ => Pure.pure value) reader :=
  have whole : InParts reads [phase]
      (enter phase >>= fun _ => (Pure.pure () : Load Unit) >>= fun _ => Pure.pure value) reader :=
    stage among (Asks.pure ()) fun _ _ _ => pure value
  whole

end InParts

end Load

/-! ## What is read in a phase -/

def Header.fetch : Load (List UInt8 × Header) := do
  let _ ← Load.seek (.start 0)
  Load.record format

/-- A header that was fetched, unless it is not one or is too old. -/
def Header.accept (minimum : UInt32) (fetched : List UInt8 × Header) : Except LoadError Header := do
  if fetched.1 ≠ magic then
    throw (.badMagic fetched.1)
  if fetched.2.version < minimum then
    throw (.unsupportedVersion fetched.2.version minimum)
  return fetched.2

theorem Header.read_eq_fetch (minimum : UInt32) :
    read minimum = Load.enter .header >>= fun _ => fetch >>= fun fetched =>
      settle (accept minimum fetched) := by
  unfold read fetch
  simp only [bind_assoc]
  apply bind_congr
  intro _
  apply bind_congr
  intro _
  apply bind_congr
  rintro ⟨first, header⟩
  unfold accept
  by_cases foreign : first ≠ magic
  · simp only [if_pos foreign]
    rfl
  simp only [if_neg foreign]
  by_cases old : header.version < minimum
  · simp only [if_pos old]
    rfl
  · simp only [if_neg old]
    rfl

namespace Header

variable [Memory]

def readGlobals (header : Header) : Load (List UInt8 × List Variable) := do
  let data ← header.globalData.bytes
  let vars ← Variable.readTable header.globalVars
  return (data, vars)

/-- The local data, the variables in it, and the strings that they begin with. -/
def readLocals (header : Header) : Load (List UInt8 × List Variable × List UInt32) := do
  let data ← header.localData.bytes
  let vars ← Variable.readTable header.localVars
  let strings ← header.localStrings.words
  return (data, vars, strings)

theorem readGlobals_asks (header : Header) : Load.Asks header.readGlobals := by
  have step : Load.Step .globalVars header.readGlobals :=
    (Load.Step.sectionBytes _).bind fun _ => (Load.Step.records _ _ _).bind fun _ => .pure _
  exact step.asks

theorem readLocals_asks (header : Header) : Load.Asks header.readLocals := by
  have step : Load.Step .localVars header.readLocals :=
    (Load.Step.sectionBytes _).bind fun _ => (Load.Step.records _ _ _).bind fun _ =>
      (Load.Step.sectionWords _).bind fun _ => .pure _
  exact step.asks

/-- What is read in each phase of a load, when this is the header of the module. -/
inductive ReadIn (header : Header) : Phase → {α : Type} → Load α → Prop
  | header : ReadIn header .header fetch
  | shapeTable : ReadIn header .shapeTable (ProcedureShape.readTable header.procedures)
  | strings : ReadIn header .strings (StringPool.read header.strings header.text)
  | includedFiles : ReadIn header .includedFiles (EmbeddedFile.readTable header.files)
  | imports : ReadIn header .imports header.imports.words
  | idTable : ReadIn header .idTable (IdTable.read header.ids)
  | globalVars : ReadIn header .globalVars header.readGlobals
  | localVars : ReadIn header .localVars header.readLocals
  | variableSpaces : ReadIn header .variableSpaces (VariableSpace.readAll header.spaces)
  | sourceListings : ReadIn header .sourceListings (SourceListing.readPaths header.sourceFiles)
  | procedures (spaces : List VariableSpace) (ids : IdTable) (pass : Pass) (sizes : SizeCache)
    (shapes : List ProcedureShape) :
    ReadIn header .procedures (Procedure.loadTable spaces ids pass sizes shapes)
  | relocation : ReadIn header .relocation (SystemCall.readTable header.systemCalls)
  | ready : ReadIn header .ready (pure ())

end Header

namespace Procedure

variable [Memory] (spaces : List VariableSpace) (ids : IdTable) (pass : Pass) (sizes : SizeCache)

theorem load_asks (index : Nat) (shape : ProcedureShape) :
    Load.Asks (load spaces ids pass sizes index shape) := by
  rw [load_eq_readParts]
  have step : Load.Step .procedures (readParts index shape) := readParts_step index shape
  apply step.asks.bind
  intro parts
  apply Load.Asks.ofPhase
  intro phase
  apply (Load.Asks.quiet (Load.normalize_quiet _ _ _ _ _ _)).bind
  intro privateBlock
  apply (Load.Asks.quiet (Load.normalize_quiet _ _ _ _ _ _)).bind
  intro publicBlock
  exact Load.Asks.pure _

theorem loadAll_asks (first : Nat) (shapes : List ProcedureShape) :
    Load.Asks (loadAll spaces ids pass sizes first shapes) := by
  induction shapes generalizing sizes first with
  | nil => exact Load.Asks.pure []
  | cons shape rest ih =>
    apply (load_asks spaces ids pass sizes first shape).bind
    rintro ⟨procedure, found⟩
    exact (ih found (first + 1)).bind fun _ => Load.Asks.pure _

theorem loadTable_asks (shapes : List ProcedureShape) :
    Load.Asks (loadTable spaces ids pass sizes shapes) := by
  have room : Load.Step .procedures (Load.allocate .procedure shapes.length) := .allocate _ _
  exact room.asks.bind fun _ => loadAll_asks spaces ids pass sizes 0 shapes

end Procedure

/-! ## Modules -/

namespace LoadedModule

variable [Memory]

/-- Reads everything behind the header and puts the module together. -/
def readSections (options : LoadOptions) (host : HostTable) (provider : SourceProvider)
    (header : Header) : Load LoadedModule := do
  Load.enter .shapeTable
  let shapes ← ProcedureShape.readTable header.procedures
  Load.enter .strings
  let strings ← StringPool.read header.strings header.text
  Load.enter .includedFiles
  let files ← EmbeddedFile.readTable header.files
  Load.enter .imports
  let imports ← header.imports.words
  Load.enter .idTable
  let ids ← IdTable.read header.ids
  Load.enter .globalVars
  let (globalData, globalVars) ← header.readGlobals
  Load.enter .localVars
  let (localData, localVars, localStrings) ← header.readLocals
  Load.enter .variableSpaces
  let spaces ← VariableSpace.readAll header.spaces
  let globals ← Load.normalize options.pass spaces .globalVars .globals globalVars
    ⟨[], globalData⟩
  let locals ← Load.normalize options.pass spaces .localVars .locals localVars
    ⟨globals.sizes, localData⟩
  Load.enter .sourceListings
  let paths ← SourceListing.readPaths header.sourceFiles
  let front : Front := {
    header, shapes, strings, files, imports, ids, globalVars, localVars, localStrings, spaces,
    globals, locals
    listings := if options.loadSources then paths.map (SourceListing.fetch provider)
      else paths.map SourceListing.missing }
  Load.enter .procedures
  let procedures ← Procedure.loadTable spaces ids options.pass locals.sizes shapes
  readCalls options host front procedures

theorem read_eq_readSections (options : LoadOptions) (host : HostTable)
    (provider : SourceProvider) :
    read options host provider =
      Header.read options.minimumVersion >>= readSections options host provider := by
  have listings : ∀ paths, readListings options provider paths =
      SourceListing.readPaths paths >>= fun paths => pure (if options.loadSources then
        paths.map (SourceListing.fetch provider) else paths.map SourceListing.missing) := by
    intro paths
    unfold readListings
    split <;> rfl
  unfold read readSections Header.readGlobals Header.readLocals
  simp only [listings, bind_assoc, pure_bind]
  rfl

/-- Behind the header there is one part for each phase that is left. -/
theorem readSections_inParts (options : LoadOptions) (host : HostTable) (provider : SourceProvider)
    (header : Header) (reader : Reader) :
    Load.InParts header.ReadIn Phase.all.tail (readSections options host provider header)
      reader := by
  apply Load.InParts.stage .shapeTable (Load.Step.records _ _ _ : Load.Step .shapeTable _).asks
  intro shapes _ _
  apply Load.InParts.stage .strings (StringPool.read_step _ _ : Load.Step .strings _).asks
  intro strings _ _
  apply Load.InParts.stage .includedFiles
    (EmbeddedFile.readTable_step _ : Load.Step .includedFiles _).asks
  intro files _ _
  apply Load.InParts.stage .imports (Load.Step.sectionWords _ : Load.Step .imports _).asks
  intro imports _ _
  apply Load.InParts.stage .idTable (IdTable.read_step _ : Load.Step .idTable _).asks
  intro ids _ _
  apply Load.InParts.stage .globalVars header.readGlobals_asks
  rintro ⟨globalData, globalVars⟩ _ _
  apply Load.InParts.stage .localVars header.readLocals_asks
  rintro ⟨localData, localVars, localStrings⟩ _ _
  apply Load.InParts.stage .variableSpaces
    (VariableSpace.readAll_step _ : Load.Step .variableSpaces _).asks
  intro spaces _ _
  apply Load.InParts.layout
  intro globals
  apply Load.InParts.layout
  intro locals
  apply Load.InParts.stage .sourceListings
    (SourceListing.readPaths_step _ : Load.Step .sourceListings _).asks
  intro paths _ _
  apply Load.InParts.stage (.procedures _ _ _ _ _) (Procedure.loadTable_asks _ _ _ _ _)
  intro procedures _ _
  apply Load.InParts.stage .relocation (SystemCall.readTable_step _ : Load.Step .relocation _).asks
  intro calls _ _
  exact Load.InParts.last .ready _

/-- The journal of a load comes in parts, one for each phase that it comes to, in the order of the
phases.  Each part is what the sections of its phase ask for, as the header of the module names
them. -/
theorem read_inParts (options : LoadOptions) (host : HostTable) (provider : SourceProvider)
    (start : Reader) :
    ∃ header : Header,
      (∀ found after, Header.read options.minimumVersion start = .ok found after →
        found = header) ∧
      Load.InParts header.ReadIn Phase.all (read options host provider) start := by
  have decided : ∃ header : Header, ∀ found after,
      Header.read options.minimumVersion start = .ok found after → found = header := by
    cases Header.read options.minimumVersion start with
    | ok header after =>
      refine ⟨header, ?_⟩
      intro found left same
      cases same
      rfl
    | error error after =>
      refine ⟨default, ?_⟩
      intro found left impossible
      cases impossible
  rcases decided with ⟨header, known⟩
  refine ⟨header, known, ?_⟩
  have fetching : Load.Step .header Header.fetch :=
    (Load.Step.seek 0).bind fun _ => .record Header.format
  rw [Header.read_eq_fetch] at known
  rw [read_eq_readSections, Header.read_eq_fetch]
  simp only [bind_assoc]
  apply Load.InParts.stage .header fetching.asks
  intro fetched middle ran
  apply Load.InParts.settle
  intro found accepted
  have read : (Load.enter .header >>= fun _ => Header.fetch >>= fun fetched =>
      settle (Header.accept options.minimumVersion fetched)) start = .ok found middle :=
    run_bind_eq_ok.mpr ⟨(), _, rfl, run_bind_eq_ok.mpr ⟨fetched, middle, ran,
      settle_eq_ok.mpr ⟨accepted, rfl⟩⟩⟩
  rw [known found middle read]
  exact readSections_inParts options host provider header middle

/-- What a load asks of its stream. -/
inductive Notes (options : LoadOptions) (host : HostTable) (provider : SourceProvider)
    (stream : Stream) (base : Nat) : Journal → Prop
  | unopened {error : LoadError} (failed : Reader.open? stream base = .error error) :
    Notes options host provider stream base (Reader.openingJournal stream base)
  | opened {start : Reader} {journal : Journal} (opened : Reader.open? stream base = .ok start)
    (notes : Load.Notes (read options host provider) start journal) :
    Notes options host provider stream base (Reader.openingJournal stream base ++ journal)

/-- A journal can be kept of every load. -/
theorem exists_notes (options : LoadOptions) (host : HostTable) (provider : SourceProvider)
    (stream : Stream) (base : Nat) :
    ∃ journal, Notes options host provider stream base journal := by
  cases opened : Reader.open? stream base with
  | error error => exact ⟨_, .unopened opened⟩
  | ok start =>
    rcases read_inParts options host provider start with ⟨_, _, parts, _, notes⟩
    exact ⟨_, .opened opened notes⟩

end LoadedModule

end CompiledModule
