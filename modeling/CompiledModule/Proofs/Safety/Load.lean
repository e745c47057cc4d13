import CompiledModule.Image
import CompiledModule.Loader
import CompiledModule.Proofs.Safety.Layout
import CompiledModule.Proofs.Safety.Sections

namespace CompiledModule

/-!
# Loads that ask before every operation

A load in which every unchecked operation asks first comes to what the plain load comes to: a module
or an error, and never a panic.  Nothing is asked of the module for that, nor of the place where it
begins, only that the stream is not so long that a word added to a place in it would leave the range
of numbers.  A module that has been loaded can be used in the same way: the positions that its
indexes hold are positions of its lists, and its strings can be cut out of its text.
-/

namespace Guarded

section Loads

variable [Memory]

def loadProcedure (spaces : List VariableSpace) (ids : IdTable) (pass : Pass) (sizes : SizeCache)
    (index : Nat) (shape : ProcedureShape) : Guarded LoadError Reader (Procedure × SizeCache) := do
  let privateData ← part? shape.privateData sectionBytes
  let publicData ← part? shape.publicData sectionBytes
  let code ← readCode index shape.code
  let privateStrings ← sectionWords shape.privateStrings
  let publicStrings ← sectionWords shape.publicStrings
  let privateVars ← records shape.privateVars .var Variable.format
  let publicVars ← records shape.publicVars .var Variable.format
  let phase := (← get).phase
  let privateBlock ← normalize pass spaces phase (.privateData index) privateVars
    ⟨sizes, privateData.getD []⟩
  let publicBlock ← normalize pass spaces phase (.publicData index) publicVars
    ⟨privateBlock.sizes, publicData.getD []⟩
  let name ← settle (nameFor ids shape.id)
  let procedure : Procedure := {
    index
    id := shape.id
    name
    flags := ⟨shape.flags⟩
    params := shape.params
    sentenceCount := shape.sentences.count
    privateData := privateData.map fun _ => privateBlock.bytes
    publicData := publicData.map fun _ => publicBlock.bytes
    code, privateStrings, publicStrings, privateVars, publicVars
    exitAt := code.bind fun _ => handlerAt shape.exitAt
    errorAt := code.bind fun _ => handlerAt shape.errorAt }
  return (procedure, publicBlock.sizes)

def loadProcedures (spaces : List VariableSpace) (ids : IdTable) (pass : Pass) :
    (sizes : SizeCache) → (index : Nat) → List ProcedureShape →
      Guarded LoadError Reader (List Procedure)
  | _, _, [] => pure []
  | sizes, index, shape :: rest => do
    let (procedure, found) ← loadProcedure spaces ids pass sizes index shape
    return procedure :: (← loadProcedures spaces ids pass found (index + 1) rest)

def loadTable (spaces : List VariableSpace) (ids : IdTable) (pass : Pass) (sizes : SizeCache)
    (shapes : List ProcedureShape) : Guarded LoadError Reader (List Procedure) := do
  plain (Load.allocate .procedure shapes.length)
  loadProcedures spaces ids pass sizes 0 shapes

def readListings (options : LoadOptions) (provider : SourceProvider) (paths : Section) :
    Guarded LoadError Reader (List SourceListing) := do
  let paths ← readPaths paths
  if options.loadSources then
    return paths.map (SourceListing.fetch provider)
  else
    return paths.map SourceListing.missing

/-- Counts the bound calls, and takes them from all calls. -/
def report (calls : List SystemCall) : Except (Halt ε) RelocationReport := do
  let resolved := calls.countP (·.binding.isSome)
  let unresolved ← difference calls.length resolved
  return ⟨resolved, unresolved⟩

def read (options : LoadOptions) (host : HostTable) (provider : SourceProvider) :
    Guarded LoadError Reader LoadedModule := do
  let header ← readHeader options.minimumVersion
  plain (Load.enter .shapeTable)
  let shapes ← records header.procedures .shape ProcedureShape.format
  plain (Load.enter .strings)
  let strings ← readStrings header.strings header.text
  plain (Load.enter .includedFiles)
  let files ← readFiles header.files
  plain (Load.enter .imports)
  let imports ← sectionWords header.imports
  plain (Load.enter .idTable)
  let ids ← readIds header.ids
  plain (Load.enter .globalVars)
  let globalData ← sectionBytes header.globalData
  let globalVars ← records header.globalVars .var Variable.format
  plain (Load.enter .localVars)
  let localData ← sectionBytes header.localData
  let localVars ← records header.localVars .var Variable.format
  let localStrings ← sectionWords header.localStrings
  plain (Load.enter .variableSpaces)
  let spaces ← readSpaces header.spaces
  let globals ← normalize options.pass spaces .globalVars .globals globalVars ⟨[], globalData⟩
  let locals ← normalize options.pass spaces .localVars .locals localVars
    ⟨globals.sizes, localData⟩
  plain (Load.enter .sourceListings)
  let listings ← readListings options provider header.sourceFiles
  plain (Load.enter .procedures)
  let procedures ← loadTable spaces ids options.pass locals.sizes shapes
  plain (Load.enter .relocation)
  let calls ← readCalls header.systemCalls
  let systemCalls := SystemCall.relocate host ids calls
  let _ ← settle (report systemCalls)
  plain (Load.enter .ready)
  let procedureIndex := FirstIndex.ofKeys (procedures.map Procedure.name)
  return {
    entryIndex := procedureIndex[options.entryPoint]?
    callIndex := FirstIndex.ofKeys (systemCalls.map SystemCall.callCode)
    globalData := globals.bytes
    localData := locals.bytes
    header, procedures, procedureIndex, globalVars, localVars, localStrings, spaces, ids,
    strings, files, imports, listings, systemCalls }

def load (options : LoadOptions) (host : HostTable) (provider : SourceProvider) (stream : Stream)
    (base : Nat) : Except (Halt LoadError) LoadedModule := do
  let reader ← open? stream base
  match read options host provider reader with
  | .ok loaded _ => return loaded
  | .error halt _ => throw halt

end Loads

end Guarded

/-- The positions in a module's indexes are positions of its lists. -/
structure LoadedModule.InRange (loaded : LoadedModule) : Prop where
  ids : loaded.ids.InRange
  strings : loaded.strings.InRange
  numbered : ∀ (position : Nat) (procedure : Procedure),
    loaded.procedures[position]? = some procedure → procedure.index = position
  procedures : loaded.procedureIndex.Below loaded.procedures.length
  entry : ∀ position, loaded.entryIndex = some position → position < loaded.procedures.length
  calls : loaded.callIndex.Below loaded.systemCalls.length

/-! ## Agreement -/

namespace Guarded

theorem report_eq (calls : List SystemCall) :
    (report calls : Except (Halt ε) RelocationReport) = .ok (.ofCalls calls) := by
  simp only [report, difference_eq List.countP_le_length]
  rfl

variable [Memory]

theorem loadProcedure_agrees {spaces : List VariableSpace} {ids : IdTable} (inRange : ids.InRange)
    (pass : Pass) (sizes : SizeCache) (index : Nat) (shape : ProcedureShape) :
    Agrees Reader.InRange (fun found => found.1.index = index)
      (loadProcedure spaces ids pass sizes index shape)
      (Procedure.load spaces ids pass sizes index shape) := by
  apply (part?_agrees _ (sectionBytes_agrees _)).bind
  intro privateData _
  apply (part?_agrees _ (sectionBytes_agrees _)).bind
  intro publicData _
  apply (readCode_agrees index _).bind
  intro code _
  apply (sectionWords_agrees _).bind
  intro privateStrings _
  apply (sectionWords_agrees _).bind
  intro publicStrings _
  apply (records_agrees _ _ _).bind
  intro privateVars _
  apply (records_agrees _ _ _).bind
  intro publicVars _
  apply Agrees.get_bind
  intro reader _
  apply (normalize_agrees pass _ _ _ _).bind
  intro privateBlock _
  apply (normalize_agrees pass _ _ _ _).bind
  intro publicBlock _
  apply Agrees.settle_bind (nameFor_eq inRange shape.id)
  exact Agrees.pure rfl

/-- A procedure carries its own position. -/
theorem loadProcedures_agrees {spaces : List VariableSpace} {ids : IdTable}
    (inRange : ids.InRange) (pass : Pass) (sizes : SizeCache) (index : Nat)
    (shapes : List ProcedureShape) :
    Agrees Reader.InRange
      (fun procedures => ∀ (position : Nat) (procedure : Procedure),
        procedures[position]? = some procedure → procedure.index = index + position)
      (loadProcedures spaces ids pass sizes index shapes)
      (Procedure.loadAll spaces ids pass sizes index shapes) := by
  induction shapes generalizing sizes index with
  | nil =>
    apply Agrees.pure
    intro position procedure impossible
    rw [List.getElem?_nil] at impossible
    cases impossible
  | cons shape rest ih =>
    apply (loadProcedure_agrees inRange pass sizes index shape).bind
    rintro ⟨first, found⟩ here
    apply (ih found (index + 1)).bind
    intro others behind
    apply Agrees.pure
    intro position procedure at'
    cases position with
    | zero =>
      cases at'
      exact here
    | succ position =>
      have numbered := behind position procedure at'
      omega

theorem loadTable_agrees {spaces : List VariableSpace} {ids : IdTable} (inRange : ids.InRange)
    (pass : Pass) (sizes : SizeCache) (shapes : List ProcedureShape) :
    Agrees Reader.InRange
      (fun procedures => ∀ (position : Nat) (procedure : Procedure),
        procedures[position]? = some procedure → procedure.index = position)
      (loadTable spaces ids pass sizes shapes)
      (Procedure.loadTable spaces ids pass sizes shapes) := by
  apply (allocate_agrees .procedure _).bind
  intro _ _
  apply (loadProcedures_agrees inRange pass sizes 0 shapes).weaken
  intro procedures numbered position procedure there
  rw [numbered position procedure there, Nat.zero_add]

theorem readListings_agrees (options : LoadOptions) (provider : SourceProvider)
    (paths : Section) :
    Agrees Reader.InRange Unrestricted (readListings options provider paths)
      (LoadedModule.readListings options provider paths) := by
  apply (readPaths_agrees paths).bind
  intro paths _
  split <;> exact Agrees.pure trivial

theorem read_agrees (options : LoadOptions) (host : HostTable) (provider : SourceProvider) :
    Agrees Reader.InRange LoadedModule.InRange (read options host provider)
      (LoadedModule.read options host provider) := by
  apply (readHeader_agrees _).bind
  intro header _
  apply (enter_agrees _).bind
  intro _ _
  apply (records_agrees _ _ _).bind
  intro shapes _
  apply (enter_agrees _).bind
  intro _ _
  apply (readStrings_agrees _ _).bind
  intro strings stringsInRange
  apply (enter_agrees _).bind
  intro _ _
  apply (readFiles_agrees _).bind
  intro files _
  apply (enter_agrees _).bind
  intro _ _
  apply (sectionWords_agrees _).bind
  intro imports _
  apply (enter_agrees _).bind
  intro _ _
  apply (readIds_agrees _).bind
  intro ids idsInRange
  apply (enter_agrees _).bind
  intro _ _
  apply (sectionBytes_agrees _).bind
  intro globalData _
  apply (records_agrees _ _ _).bind
  intro globalVars _
  apply (enter_agrees _).bind
  intro _ _
  apply (sectionBytes_agrees _).bind
  intro localData _
  apply (records_agrees _ _ _).bind
  intro localVars _
  apply (sectionWords_agrees _).bind
  intro localStrings _
  apply (enter_agrees _).bind
  intro _ _
  apply (readSpaces_agrees _).bind
  intro spaces _
  apply (normalize_agrees _ _ _ _ _).bind
  intro globals _
  apply (normalize_agrees _ _ _ _ _).bind
  intro locals _
  apply (enter_agrees _).bind
  intro _ _
  apply (readListings_agrees _ _ _).bind
  intro listings _
  apply (enter_agrees _).bind
  intro _ _
  apply (loadTable_agrees idsInRange _ _ _).bind
  intro procedures numbered
  apply (enter_agrees _).bind
  intro _ _
  apply (readCalls_agrees _).bind
  intro calls _
  apply Agrees.settle_bind (report_eq _)
  apply (enter_agrees _).bind
  intro _ _
  have names := FirstIndex.below_ofKeys (procedures.map Procedure.name)
  have codes := FirstIndex.below_ofKeys
    ((SystemCall.relocate host ids calls).map SystemCall.callCode)
  rw [List.length_map] at names codes
  apply Agrees.pure
  constructor
  · exact idsInRange
  · exact stringsInRange
  · exact numbered
  · exact names
  · exact names options.entryPoint
  · exact codes

end Guarded

namespace LoadedModule

/-- Whatever a stream holds and wherever the module is said to begin in it, a load that asks before
every operation ends as the plain load does, with a module or with an error.  The positions in the
indexes of a loaded module are positions of its lists, and each of its strings can be cut out of its
text. -/
theorem load_never_panics [Memory] (options : LoadOptions) (host : HostTable)
    (provider : SourceProvider) (stream : Stream) (base : Nat)
    (room : stream.length < 2 ^ 64 - 2 ^ 32) :
    Guarded.load options host provider stream base =
        (load options host provider stream base).mapError .error ∧
      ∀ loaded, load options host provider stream base = .ok loaded →
        loaded.InRange ∧
          ∀ index < loaded.strings.size, ∃ string,
            (Guarded.string loaded.strings index : Except (Halt LoadError) (List UInt8)) =
                .ok string ∧
              loaded.strings.get? index = some string := by
  have room' : stream.length + 2 ^ 32 < sizeLimit := by
    unfold sizeLimit
    omega
  have agrees := Guarded.read_agrees options host provider
  unfold Guarded.load load
  rw [Guarded.open?_eq]
  cases opened : Reader.open? stream base with
  | error error =>
    refine ⟨rfl, ?_⟩
    intro loaded impossible
    cases impossible
  | ok reader =>
    have inRange := Reader.inRange_open opened room'
    simp only [mapError_ok, bind, Except.bind, agrees.run_eq inRange, Guarded.plain,
      EStateM.adaptExcept]
    cases ran : read options host provider reader with
    | error error after =>
      refine ⟨rfl, ?_⟩
      intro loaded impossible
      cases impossible
    | ok loaded after =>
      refine ⟨rfl, ?_⟩
      intro _ same
      cases same
      have good := agrees.result inRange ran
      exact ⟨good, fun index inside => Guarded.string_eq good.strings inside⟩

/-- A module with a file, a struct in its globals, and a procedure with code. -/
def smallImage : Image where
  version := Header.currentVersion
  ids := [⟨1, "MAIN"⟩]
  strings := ["no"]
  files := [("a", [7])]
  imports := []
  globalData := [1, 0, 2, 0]
  globalVars := [⟨.ofSpace 0, 1, 0, 0⟩]
  localData := []
  localVars := []
  localStrings := [0]
  spaces := [[⟨.ofBase (.scalar .word), 2, 0, 0⟩, ⟨.ofBase (.scalar .word), 3, 2, 0⟩]]
  sourceFiles := ["m"]
  systemCalls := [⟨1, 0, 1, 40, [6], none⟩]
  procedures := [⟨1, 4, 0, [], [], [], [9], [], [], [11], 0, 0⟩]

theorem load_small_never_panics :
    let options := { LoadOptions.standard with hostOrder := .big }
    let stream := Stream.ofBytes (0 :: smallImage.encode)
    ∃ loaded, load options [] (fun _ => none) stream 1 = .ok loaded ∧
      Guarded.load options [] (fun _ => none) stream 1 = .ok loaded ∧ loaded.InRange := by
  intro options stream
  have loads : (load options [] (fun _ => none) stream 1).isOk = true := by decide +kernel
  have room : stream.length < 2 ^ 64 - 2 ^ 32 := by decide +kernel
  have safe := load_never_panics options [] (fun _ => none) stream 1 room
  cases outcome : load options [] (fun _ => none) stream 1 with
  | error error =>
    rw [outcome] at loads
    cases loads
  | ok loaded =>
    rw [outcome] at safe
    exact ⟨loaded, rfl, safe.1, (safe.2 loaded rfl).1⟩

end LoadedModule

end CompiledModule
