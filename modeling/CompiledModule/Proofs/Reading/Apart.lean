import CompiledModule.Loader
import CompiledModule.Proofs.Reading.Alone

namespace CompiledModule

/-!
# A load as independent readings

A load carries one reader through all of its stages.  The reader stands wherever the stage before
has left it, in sections that may overlap, lie in any order or point outside the module.  None of
this matters.  Here every section is read alone, with a reader that is opened for it, at the place
and with the count that the header or a shape gives it; only the sizes of structs are handed from
one laid out block to the next.  The readings are taken in a fixed order, and the first error ends
them.

A load of a module in memory is exactly this.  It gives a module when all the readings succeed, the
module is put together from their results, and when it fails its error is that of the first reading
or layout that fails, with the phase, the block and the numbers of that reading made alone.
-/

/-! ## Procedures -/

structure ProcedureParts where
  privateData : Option (List UInt8)
  publicData : Option (List UInt8)
  code : Option (List UInt32)
  privateStrings : List UInt32
  publicStrings : List UInt32
  privateVars : List Variable
  publicVars : List Variable

namespace Procedure

/-- A procedure from what is read of it and the bytes of its data after their layout.  It has a
handler if it has code and the offset of the handler is not 0. -/
def assemble (ids : IdTable) (index : Nat) (shape : ProcedureShape) (parts : ProcedureParts)
    (privateBytes publicBytes : List UInt8) : Procedure where
  index
  id := shape.id
  name := ids.nameFor shape.id
  flags := ⟨shape.flags⟩
  params := shape.params
  sentenceCount := shape.sentences.count
  privateData := parts.privateData.map fun _ => privateBytes
  publicData := parts.publicData.map fun _ => publicBytes
  code := parts.code
  privateStrings := parts.privateStrings
  publicStrings := parts.publicStrings
  privateVars := parts.privateVars
  publicVars := parts.publicVars
  exitAt := if parts.code.isNone ∨ shape.exitAt = 0 then none else some shape.exitAt
  errorAt := if parts.code.isNone ∨ shape.errorAt = 0 then none else some shape.errorAt

theorem bind_handlerAt (code : Option (List UInt32)) (offset : UInt32) :
    (code.bind fun _ => handlerAt offset) =
      if code.isNone ∨ offset = 0 then none else some offset := by
  cases code with
  | none => rfl
  | some code => simp [handlerAt]

end Procedure

/-- The sections of procedure number `index`, each read alone. -/
def ProcedureParts.readApart [Memory] (contents : List UInt8) (base index : Nat)
    (shape : ProcedureShape) : Except LoadError ProcedureParts := do
  let privateData ← Load.alone contents base .procedures (shape.privateData.part? Section.bytes)
  let publicData ← Load.alone contents base .procedures (shape.publicData.part? Section.bytes)
  let code ← Load.alone contents base .procedures (Procedure.readCode index shape.code)
  let privateStrings ← Load.alone contents base .procedures shape.privateStrings.words
  let publicStrings ← Load.alone contents base .procedures shape.publicStrings.words
  let privateVars ← Load.alone contents base .procedures (Variable.readTable shape.privateVars)
  let publicVars ← Load.alone contents base .procedures (Variable.readTable shape.publicVars)
  return { privateData, publicData, code, privateStrings, publicStrings, privateVars, publicVars }

namespace Procedure

variable [Memory]

/-- Procedure number `index`, read apart, with its two blocks laid out one after the other. -/
def loadApart (contents : List UInt8) (base : Nat) (spaces : List VariableSpace) (ids : IdTable)
    (pass : Pass) (sizes : SizeCache) (index : Nat) (shape : ProcedureShape) :
    Except LoadError (Procedure × SizeCache) := do
  let parts ← ProcedureParts.readApart contents base index shape
  let privateBlock ← pass.apply spaces .procedures (.privateData index) parts.privateVars
    ⟨sizes, parts.privateData.getD []⟩
  let publicBlock ← pass.apply spaces .procedures (.publicData index) parts.publicVars
    ⟨privateBlock.sizes, parts.publicData.getD []⟩
  return (assemble ids index shape parts privateBlock.bytes publicBlock.bytes, publicBlock.sizes)

def loadAllApart (contents : List UInt8) (base : Nat) (spaces : List VariableSpace)
    (ids : IdTable) (pass : Pass) :
    (sizes : SizeCache) → (index : Nat) → List ProcedureShape → Except LoadError (List Procedure)
  | _, _, [] => pure []
  | sizes, index, shape :: rest => do
    let (procedure, found) ← loadApart contents base spaces ids pass sizes index shape
    return procedure :: (← loadAllApart contents base spaces ids pass found (index + 1) rest)

def loadTableApart (contents : List UInt8) (base : Nat) (spaces : List VariableSpace)
    (ids : IdTable) (pass : Pass) (sizes : SizeCache) (shapes : List ProcedureShape) :
    Except LoadError (List Procedure) := do
  Load.alone contents base .procedures (Load.allocate .procedure shapes.length)
  loadAllApart contents base spaces ids pass sizes 0 shapes

variable {contents : List UInt8} {base : Nat}

theorem load_comesTo (inModule : base ≤ contents.length) (spaces : List VariableSpace)
    (ids : IdTable) (pass : Pass) (sizes : SizeCache) (index : Nat) (shape : ProcedureShape) :
    Load.ComesTo contents base .procedures .procedures (load spaces ids pass sizes index shape)
      (loadApart contents base spaces ids pass sizes index shape) := by
  unfold load loadApart ProcedureParts.readApart
  simp only [bind_assoc, pure_bind]
  apply Load.ComesTo.bind (.alone inModule (.part? _ (.bytes _)))
  intro privateData
  apply Load.ComesTo.bind (.alone inModule (.part? _ (.bytes _)))
  intro publicData
  apply Load.ComesTo.bind (.alone inModule (readCode_placeless _ _))
  intro code
  apply Load.ComesTo.bind (.alone inModule (.words _))
  intro privateStrings
  apply Load.ComesTo.bind (.alone inModule (.words _))
  intro publicStrings
  apply Load.ComesTo.bind (.alone inModule (Variable.readTable_placeless _))
  intro privateVars
  apply Load.ComesTo.bind (.alone inModule (Variable.readTable_placeless _))
  intro publicVars
  apply Load.ComesTo.get_bind
  intro reader here
  simp only [here]
  apply Load.ComesTo.bind (.normalize _ _ _ _ _ _)
  intro privateBlock
  apply Load.ComesTo.bind (.normalize _ _ _ _ _ _)
  intro publicBlock
  simp only [bind_handlerAt]
  exact Load.ComesTo.pure _

/-- The induction is on the shapes; the sizes found for one procedure go to the next. -/
theorem loadAll_comesTo (inModule : base ≤ contents.length) (spaces : List VariableSpace)
    (ids : IdTable) (pass : Pass) (sizes : SizeCache) (index : Nat)
    (shapes : List ProcedureShape) :
    Load.ComesTo contents base .procedures .procedures
      (loadAll spaces ids pass sizes index shapes)
      (loadAllApart contents base spaces ids pass sizes index shapes) := by
  induction shapes generalizing sizes index with
  | nil => exact Load.ComesTo.pure []
  | cons shape rest ih =>
    unfold loadAll loadAllApart
    apply Load.ComesTo.bind (load_comesTo inModule spaces ids pass sizes index shape)
    rintro ⟨procedure, found⟩
    apply Load.ComesTo.bind (ih found (index + 1))
    intro procedures
    exact Load.ComesTo.pure _

theorem loadTable_comesTo (inModule : base ≤ contents.length) (spaces : List VariableSpace)
    (ids : IdTable) (pass : Pass) (sizes : SizeCache) (shapes : List ProcedureShape) :
    Load.ComesTo contents base .procedures .procedures (loadTable spaces ids pass sizes shapes)
      (loadTableApart contents base spaces ids pass sizes shapes) := by
  unfold loadTable loadTableApart
  apply Load.ComesTo.bind (.alone inModule (.allocate _ _))
  intro _
  exact loadAll_comesTo inModule spaces ids pass sizes 0 shapes

end Procedure

/-! ## Modules -/

/-- What is read of a module, with its global and its local data after their layout. -/
structure ModuleParts where
  header : Header
  shapes : List ProcedureShape
  strings : StringPool
  files : List EmbeddedFile
  imports : List UInt32
  ids : IdTable
  globalData : List UInt8
  globalVars : List Variable
  localData : List UInt8
  localVars : List Variable
  localStrings : List UInt32
  spaces : List VariableSpace
  globals : Workspace
  locals : Workspace
  paths : List String
  procedures : List Procedure
  calls : List SystemCall

namespace ModuleParts

def listings (options : LoadOptions) (provider : SourceProvider) (parts : ModuleParts) :
    List SourceListing :=
  if options.loadSources then parts.paths.map (SourceListing.fetch provider)
  else parts.paths.map SourceListing.missing

theorem paths_listings (options : LoadOptions) (provider : SourceProvider) (parts : ModuleParts) :
    (parts.listings options provider).map SourceListing.path = parts.paths := by
  unfold listings
  split
  · exact SourceListing.paths_fetch provider parts.paths
  · exact SourceListing.paths_missing parts.paths

variable [Memory]

/-- Every section read alone, in the order of a load. -/
def readApart (options : LoadOptions) (contents : List UInt8) (base : Nat) :
    Except LoadError ModuleParts := do
  let header ← Load.alone contents base .header (Header.read options.minimumVersion)
  let shapes ← Load.alone contents base .shapeTable (ProcedureShape.readTable header.procedures)
  let strings ← Load.alone contents base .strings (StringPool.read header.strings header.text)
  let files ← Load.alone contents base .includedFiles (EmbeddedFile.readTable header.files)
  let imports ← Load.alone contents base .imports header.imports.words
  let ids ← Load.alone contents base .idTable (IdTable.read header.ids)
  let globalData ← Load.alone contents base .globalVars header.globalData.bytes
  let globalVars ← Load.alone contents base .globalVars (Variable.readTable header.globalVars)
  let localData ← Load.alone contents base .localVars header.localData.bytes
  let localVars ← Load.alone contents base .localVars (Variable.readTable header.localVars)
  let localStrings ← Load.alone contents base .localVars header.localStrings.words
  let spaces ← Load.alone contents base .variableSpaces (VariableSpace.readAll header.spaces)
  let globals ← options.pass.apply spaces .globalVars .globals globalVars ⟨[], globalData⟩
  let locals ← options.pass.apply spaces .localVars .locals localVars ⟨globals.sizes, localData⟩
  let paths ← Load.alone contents base .sourceListings (SourceListing.readPaths header.sourceFiles)
  let procedures ←
    Procedure.loadTableApart contents base spaces ids options.pass locals.sizes shapes
  let calls ← Load.alone contents base .relocation (SystemCall.readTable header.systemCalls)
  return {
    header, shapes, strings, files, imports, ids, globalData, globalVars, localData, localVars,
    localStrings, spaces, globals, locals, paths, procedures, calls }

/-- These are the results of all the readings and layouts, each of which has succeeded. -/
structure StandIn (options : LoadOptions) (contents : List UInt8) (base : Nat)
    (parts : ModuleParts) : Prop where
  header : Load.alone contents base .header (Header.read options.minimumVersion) = .ok parts.header
  shapes : Load.alone contents base .shapeTable
    (ProcedureShape.readTable parts.header.procedures) = .ok parts.shapes
  strings : Load.alone contents base .strings
    (StringPool.read parts.header.strings parts.header.text) = .ok parts.strings
  files : Load.alone contents base .includedFiles
    (EmbeddedFile.readTable parts.header.files) = .ok parts.files
  imports : Load.alone contents base .imports parts.header.imports.words = .ok parts.imports
  ids : Load.alone contents base .idTable (IdTable.read parts.header.ids) = .ok parts.ids
  globalData : Load.alone contents base .globalVars
    parts.header.globalData.bytes = .ok parts.globalData
  globalVars : Load.alone contents base .globalVars
    (Variable.readTable parts.header.globalVars) = .ok parts.globalVars
  localData : Load.alone contents base .localVars
    parts.header.localData.bytes = .ok parts.localData
  localVars : Load.alone contents base .localVars
    (Variable.readTable parts.header.localVars) = .ok parts.localVars
  localStrings : Load.alone contents base .localVars
    parts.header.localStrings.words = .ok parts.localStrings
  spaces : Load.alone contents base .variableSpaces
    (VariableSpace.readAll parts.header.spaces) = .ok parts.spaces
  globals : options.pass.apply parts.spaces .globalVars .globals parts.globalVars
    ⟨[], parts.globalData⟩ = .ok parts.globals
  locals : options.pass.apply parts.spaces .localVars .locals parts.localVars
    ⟨parts.globals.sizes, parts.localData⟩ = .ok parts.locals
  paths : Load.alone contents base .sourceListings
    (SourceListing.readPaths parts.header.sourceFiles) = .ok parts.paths
  procedures : Procedure.loadTableApart contents base parts.spaces parts.ids options.pass
    parts.locals.sizes parts.shapes = .ok parts.procedures
  calls : Load.alone contents base .relocation
    (SystemCall.readTable parts.header.systemCalls) = .ok parts.calls

def assemble (options : LoadOptions) (host : HostTable) (provider : SourceProvider)
    (parts : ModuleParts) : LoadedModule :=
  let systemCalls := SystemCall.relocate host parts.ids parts.calls
  let procedureIndex := FirstIndex.ofKeys (parts.procedures.map Procedure.name)
  { header := parts.header
    procedures := parts.procedures
    procedureIndex
    entryIndex := procedureIndex[options.entryPoint]?
    globalData := parts.globals.bytes
    localData := parts.locals.bytes
    globalVars := parts.globalVars
    localVars := parts.localVars
    localStrings := parts.localStrings
    spaces := parts.spaces
    ids := parts.ids
    strings := parts.strings
    files := parts.files
    imports := parts.imports
    listings := parts.listings options provider
    systemCalls
    callIndex := FirstIndex.ofKeys (systemCalls.map SystemCall.callCode) }

variable {options : LoadOptions} {contents : List UInt8} {base : Nat}

theorem readApart_eq_ok {parts : ModuleParts} :
    readApart options contents base = .ok parts ↔ parts.StandIn options contents base := by
  unfold readApart
  simp only [bind_eq_ok]
  constructor
  · rintro ⟨header, header', shapes, shapes', strings, strings', files, files', imports, imports',
      ids, ids', globalData, globalData', globalVars, globalVars', localData, localData',
      localVars, localVars', localStrings, localStrings', spaces, spaces', globals, globals',
      locals, locals', paths, paths', procedures, procedures', calls, calls', same⟩
    cases same
    exact ⟨header', shapes', strings', files', imports', ids', globalData', globalVars',
      localData', localVars', localStrings', spaces', globals', locals', paths', procedures',
      calls'⟩
  · intro reads
    exact ⟨_, reads.header, _, reads.shapes, _, reads.strings, _, reads.files, _, reads.imports,
      _, reads.ids, _, reads.globalData, _, reads.globalVars, _, reads.localData,
      _, reads.localVars, _, reads.localStrings, _, reads.spaces, _, reads.globals,
      _, reads.locals, _, reads.paths, _, reads.procedures, _, reads.calls, rfl⟩

end ModuleParts

namespace LoadedModule

variable [Memory] {contents : List UInt8} {base : Nat}

theorem read_comesTo (inModule : base ≤ contents.length) (options : LoadOptions)
    (host : HostTable) (provider : SourceProvider) :
    Load.ComesTo contents base .header .ready (read options host provider)
      (ModuleParts.assemble options host provider <$>
        ModuleParts.readApart options contents base) := by
  unfold read readListings ModuleParts.readApart
  simp only [map_bind, map_pure, bind_assoc]
  apply Load.ComesTo.bind (.alone inModule (Header.read_placeless _))
  intro header
  apply Load.ComesTo.enter_bind
  apply Load.ComesTo.bind (.alone inModule (ProcedureShape.readTable_placeless _))
  intro shapes
  apply Load.ComesTo.enter_bind
  apply Load.ComesTo.bind (.alone inModule (StringPool.read_placeless _ _))
  intro strings
  apply Load.ComesTo.enter_bind
  apply Load.ComesTo.bind (.alone inModule (EmbeddedFile.readTable_placeless _))
  intro files
  apply Load.ComesTo.enter_bind
  apply Load.ComesTo.bind (.alone inModule (.words _))
  intro imports
  apply Load.ComesTo.enter_bind
  apply Load.ComesTo.bind (.alone inModule (IdTable.read_placeless _))
  intro ids
  apply Load.ComesTo.enter_bind
  apply Load.ComesTo.bind (.alone inModule (.bytes _))
  intro globalData
  apply Load.ComesTo.bind (.alone inModule (Variable.readTable_placeless _))
  intro globalVars
  apply Load.ComesTo.enter_bind
  apply Load.ComesTo.bind (.alone inModule (.bytes _))
  intro localData
  apply Load.ComesTo.bind (.alone inModule (Variable.readTable_placeless _))
  intro localVars
  apply Load.ComesTo.bind (.alone inModule (.words _))
  intro localStrings
  apply Load.ComesTo.enter_bind
  apply Load.ComesTo.bind (.alone inModule (VariableSpace.readAll_placeless _))
  intro spaces
  apply Load.ComesTo.bind (.normalize _ _ _ _ _ _)
  intro globals
  apply Load.ComesTo.bind (.normalize _ _ _ _ _ _)
  intro locals
  apply Load.ComesTo.enter_bind
  apply Load.ComesTo.bind (.alone inModule (SourceListing.readPaths_placeless _))
  intro paths
  -- The listings come to nothing more than their paths, whether or not their texts are wanted.
  have listed : ∀ wanted : Bool, (if wanted = true then
      (pure (paths.map (SourceListing.fetch provider)) : Load (List SourceListing))
      else pure (paths.map SourceListing.missing)) =
        pure (if wanted = true then paths.map (SourceListing.fetch provider)
          else paths.map SourceListing.missing) := by
    intro wanted
    cases wanted <;> rfl
  rw [listed, pure_bind]
  apply Load.ComesTo.enter_bind
  apply Load.ComesTo.bind (Procedure.loadTable_comesTo inModule _ _ _ _ _)
  intro procedures
  apply Load.ComesTo.enter_bind
  apply Load.ComesTo.bind (.alone inModule (SystemCall.readTable_placeless _))
  intro calls
  apply Load.ComesTo.enter_bind
  exact Load.ComesTo.pure _

theorem load_eq_readApart (options : LoadOptions) (host : HostTable) (provider : SourceProvider)
    (contents : List UInt8) (base : Nat) :
    load options host provider (.ofBytes contents) base =
      ModuleParts.assemble options host provider <$>
        ModuleParts.readApart options contents base := by
  unfold load
  by_cases inModule : base ≤ contents.length
  · rw [Reader.open?_ofBytes inModule]
    have start : (Reader.over contents base .header 0).Inside contents base .header :=
      ⟨0, Nat.zero_le _, rfl⟩
    rw [← (read_comesTo inModule options host provider _ start).1]
    simp only [bind, Except.bind]
    cases read options host provider (.over contents base .header 0) <;> rfl
  · unfold ModuleParts.readApart Load.alone
    rw [Reader.open?_behind inModule]
    rfl

/-- A load of a module in memory is the composition of readings made alone.  It succeeds exactly
when each of them and every layout succeeds, and then the module is put together from their
results; and an error ends it exactly when the first of them that fails, in the order of a load,
fails with this error. -/
theorem load_iff_readApart (options : LoadOptions) (host : HostTable) (provider : SourceProvider)
    (contents : List UInt8) (base : Nat) :
    (∀ loaded, load options host provider (.ofBytes contents) base = .ok loaded ↔
      ∃ parts : ModuleParts, parts.StandIn options contents base ∧
        loaded = parts.assemble options host provider) ∧
    (∀ error, load options host provider (.ofBytes contents) base = .error error ↔
      ModuleParts.readApart options contents base = .error error) := by
  rw [load_eq_readApart]
  constructor
  · intro loaded
    constructor
    · intro succeeded
      cases read : ModuleParts.readApart options contents base with
      | ok parts =>
        rw [read] at succeeded
        cases succeeded
        exact ⟨parts, ModuleParts.readApart_eq_ok.mp read, rfl⟩
      | error error =>
        rw [read] at succeeded
        cases succeeded
    · rintro ⟨parts, reads, rfl⟩
      rw [ModuleParts.readApart_eq_ok.mpr reads]
      rfl
  · intro error
    cases ModuleParts.readApart options contents base with
    | ok parts =>
      constructor
      · intro impossible
        cases impossible
      · intro impossible
        cases impossible
    | error other =>
      constructor
      · intro failed
        cases failed
        rfl
      · intro failed
        cases failed
        rfl

end LoadedModule

end CompiledModule
