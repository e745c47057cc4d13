import CompiledModule.Proofs.Layout.BlockAlike
import CompiledModule.Proofs.Lookup.Resolution
import CompiledModule.Proofs.Reading.Apart
import CompiledModule.Proofs.Reading.Stored
import CompiledModule.Proofs.RoundTrip.Image

namespace CompiledModule

/-!
# What a loaded module holds

Whoever works with a loaded module relies on more than on each of its parts.  A procedure stands at
the position that it carries as its index, under the name that the module's own table gives its
number.  Its shape in the file says whether it has code and data, and how much.  The indexes lead to
first entries, strings end at their first zero byte, and every table is as long as the header says.

All of this holds of every module that a load accepts, whoever wrote it.  What the load has read is
known to stand in the contents; the passes over the data change its order and never its size.
-/

/-! ## Data blocks -/

/-- A pass leaves a block as long as it was. -/
theorem Pass.length_apply {pass : Pass} {spaces : List VariableSpace} {phase : Phase}
    {block : DataBlock} {vars : List Variable} {workspace edited : Workspace}
    (applied : pass.apply spaces phase block vars workspace = .ok edited) :
    edited.bytes.length = workspace.bytes.length := by
  by_cases skips : pass = .skip
  · subst skips
    cases applied
    rfl
  · have start : Workspace.Alike workspace.bytes workspace workspace := ⟨rfl, rfl, rfl⟩
    have ends := run_alike noExcuse skips spaces phase block vars workspace.bytes _ _ start
    rw [Pass.apply] at applied
    cases ran : pass.run spaces phase block vars workspace with
    | error error after =>
      rw [ran] at applied
      cases applied
    | ok value after =>
      rw [ran] at applied ends
      cases applied
      rcases ends.right_ok with ⟨_, checked, _, _, alike⟩
      exact alike.length

/-! ## Strings -/

namespace StringPool

/-- The strings of a pool that was read: as many as the header says, each of them cut out of the
stored text at its stored start. -/
structure HoldsStrings (contents : List UInt8) (base : Nat) (strings text : Section)
    (pool : StringPool) : Prop where
  isSome : ∀ index, (pool.get? index).isSome ↔ index < strings.count.toNat
  wholeText : ((contents.drop (base + text.offset.toNat)).take text.count.toNat).length =
    text.count.toNat
  cut : ∀ index string, pool.get? index = some string →
    ∃ start : UInt32, WordAt contents (base + strings.offset.toNat + index * 4) start ∧
      start ≤ text.count ∧
      LongestZeroFree
        (((contents.drop (base + text.offset.toNat)).take text.count.toNat).drop start.toNat) string

variable {contents : List UInt8} {base : Nat} {phase : Phase} {strings text : Section}
  {pool : StringPool}

theorem holdsStrings [Memory]
    (read : Load.alone contents base phase (StringPool.read strings text) = .ok pool) :
    pool.HoldsStrings contents base strings text := by
  rcases alone_read read with ⟨wordsRead, bytesRead⟩
  have fits := (read_gives strings text).alone read
  have found : ∀ {index : Nat} {start : UInt32}, pool.offsets[index]? = some start →
      pool.get? index =
        some (cutString pool.text (pool.text.size - start.toNat) start.toNat) := by
    intro index start among
    have begins := fits.inRange start (Array.mem_toList_iff.mpr (Array.mem_of_getElem? among))
    rw [get?, among]
    exact if_pos begins
  constructor
  · intro index
    rw [← fits.size, size]
    cases among : pool.offsets[index]? with
    | none =>
      rw [get?, among]
      simpa using among
    | some start =>
      rw [found among]
      rcases Array.getElem?_eq_some_iff.mp among with ⟨inside, _⟩
      exact iff_of_true rfl inside
  · rw [← Load.alone_bytes bytesRead, Array.length_toList, fits.textSize]
  · intro index string same
    cases among : pool.offsets[index]? with
    | none =>
      rw [get?, among] at same
      cases same
    | some start =>
      have begins := fits.inRange start (Array.mem_toList_iff.mpr (Array.mem_of_getElem? among))
      rw [found among, Option.some.injEq, cutString_eq _ _ _ (by omega)] at same
      have stored := Load.alone_words wordsRead index start (by simpa using among)
      refine ⟨start, stored, ?_, ?_⟩
      · rwa [fits.textSize] at begins
      · rw [← Load.alone_bytes bytesRead, ← same]
        exact longestZeroFree_untilZero _

end StringPool

/-! ## Procedures -/

namespace Procedure

/-- The procedure with this index is what its shape says.  Without code it has no handlers, and
nothing has offset 0. -/
structure Fits (ids : IdTable) (index : Nat) (shape : ProcedureShape) (procedure : Procedure) :
    Prop where
  index : procedure.index = index
  id : procedure.id = shape.id
  name : procedure.name = ids.nameFor procedure.id
  isAbstract : procedure.isAbstract ↔ shape.code.count = 0
  code : ∀ words, procedure.code = some words → words.length = shape.code.count.toNat / 4
  withoutHandlers : procedure.isAbstract → procedure.exitAt = none ∧ procedure.errorAt = none
  nonzero : procedure.exitAt ≠ some 0 ∧ procedure.errorAt ≠ some 0
  privateData : Load.Gives.Presence shape.privateData
    (fun data => data.length = shape.privateData.count.toNat) procedure.privateData
  publicData : Load.Gives.Presence shape.publicData
    (fun data => data.length = shape.publicData.count.toNat) procedure.publicData

theorem handler_ne_zero (isAbstract : Bool) (offset : UInt32) :
    (if isAbstract ∨ offset = 0 then none else some offset) ≠ some 0 := by
  intro same
  split at same
  · cases same
  · rename_i there
    exact there (Or.inr (Option.some.inj same))

/-- A block that was laid out takes the place of the one that was read. -/
theorem presence_laidOut {part : Section} {found : Option (List UInt8)} {bytes : List UInt8}
    {length : Nat} (presence : Load.Gives.Presence part (fun data => data.length = length) found)
    (same : bytes.length = (found.getD []).length) :
    Load.Gives.Presence part (fun data => data.length = length) (found.map fun _ => bytes) := by
  constructor
  · rw [Option.map_eq_none_iff]
    exact presence.absent
  · intro laidOut present
    rcases Option.map_eq_some_iff.mp present with ⟨data, there, replaced⟩
    rw [there, Option.getD_some] at same
    rw [← replaced, same]
    exact presence.present data there

variable [Memory] {contents : List UInt8} {base : Nat} {spaces : List VariableSpace}
  {ids : IdTable} {pass : Pass}

theorem fits_of_loadApart {sizes found : SizeCache} {index : Nat} {shape : ProcedureShape}
    {procedure : Procedure}
    (loads : loadApart contents base spaces ids pass sizes index shape = .ok (procedure, found)) :
    procedure.Fits ids index shape := by
  simp only [loadApart, ProcedureParts.readApart, bind_eq_ok] at loads
  rcases loads with
    ⟨parts, ⟨privateData, privateRead, publicData, publicRead, code, codeRead, _, _, _, _, _, _,
      _, _, same⟩, privateBlock, privateLaid, publicBlock, publicLaid, assembled⟩
  cases same
  cases assembled
  have coded := (readCode_gives index shape.code).alone codeRead
  constructor
  · rfl
  · rfl
  · rfl
  · rw [← coded.absent]
    exact Option.isNone_iff_eq_none
  · intro words there
    have whole := coded.present words there
    omega
  · intro isAbstract
    have absent : code = none := Option.isNone_iff_eq_none.mp isAbstract
    subst absent
    exact ⟨rfl, rfl⟩
  · exact ⟨handler_ne_zero _ _, handler_ne_zero _ _⟩
  · exact presence_laidOut ((Load.Gives.part? _ (Load.Gives.sectionBytes _)).alone privateRead)
      (Pass.length_apply privateLaid)
  · exact presence_laidOut ((Load.Gives.part? _ (Load.Gives.sectionBytes _)).alone publicRead)
      (Pass.length_apply publicLaid)

/-- The induction is on the shapes, each of which gives one procedure. -/
theorem fits_of_loadAllApart {sizes : SizeCache} {first : Nat} {shapes : List ProcedureShape}
    {procedures : List Procedure}
    (loads : loadAllApart contents base spaces ids pass sizes first shapes = .ok procedures) :
    procedures.length = shapes.length ∧
      ∀ (index : Nat) (procedure : Procedure), procedures[index]? = some procedure →
        ∃ shape, shapes[index]? = some shape ∧ procedure.Fits ids (first + index) shape := by
  induction shapes generalizing sizes first procedures with
  | nil =>
    cases loads
    refine ⟨rfl, ?_⟩
    intro index procedure impossible
    cases impossible
  | cons shape rest ih =>
    simp only [loadAllApart, bind_eq_ok] at loads
    rcases loads with ⟨⟨procedure, found⟩, load, others, later, same⟩
    cases same
    rcases ih later with ⟨length, fits⟩
    refine ⟨congrArg (· + 1) length, ?_⟩
    intro index other among
    cases index with
    | zero =>
      cases among
      exact ⟨shape, rfl, fits_of_loadApart load⟩
    | succ index =>
      have next := fits index other among
      rwa [Nat.add_assoc, Nat.add_comm 1] at next

theorem fits_of_loadTableApart {sizes : SizeCache} {shapes : List ProcedureShape}
    {procedures : List Procedure}
    (loads : loadTableApart contents base spaces ids pass sizes shapes = .ok procedures) :
    procedures.length = shapes.length ∧
      ∀ (index : Nat) (procedure : Procedure), procedures[index]? = some procedure →
        ∃ shape, shapes[index]? = some shape ∧ procedure.Fits ids index shape := by
  rcases bind_eq_ok.mp loads with ⟨_, _, loads⟩
  have fits := fits_of_loadAllApart loads
  simpa only [Nat.zero_add] using fits

end Procedure

/-! ## Modules -/

namespace LoadedModule

/-- Every table is as long as the header says. -/
structure Counted (loaded : LoadedModule) : Prop where
  procedures : loaded.procedures.length = loaded.header.procedures.count.toNat
  files : loaded.files.length = loaded.header.files.count.toNat
  ids : loaded.ids.entries.size = loaded.header.ids.count.toNat
  strings : loaded.strings.size = loaded.header.strings.count.toNat
  text : loaded.strings.text.size = loaded.header.text.count.toNat
  globalData : loaded.globalData.length = loaded.header.globalData.count.toNat
  globalVars : loaded.globalVars.length = loaded.header.globalVars.count.toNat
  localData : loaded.localData.length = loaded.header.localData.count.toNat
  localVars : loaded.localVars.length = loaded.header.localVars.count.toNat
  localStrings : loaded.localStrings.length = loaded.header.localStrings.count.toNat
  spaces : loaded.spaces.length = loaded.header.spaces.count.toNat
  imports : loaded.imports.length = loaded.header.imports.count.toNat
  listings : loaded.listings.length = loaded.header.sourceFiles.count.toNat
  systemCalls : loaded.systemCalls.length = loaded.header.systemCalls.count.toNat

/-- The module agrees with the contents that it was loaded from, and its indexes with its tables. -/
structure Registered (options : LoadOptions) (contents : List UInt8) (base : Nat)
    (loaded : LoadedModule) : Prop where
  header : Header.format.At contents base (Header.magic, loaded.header)
  counted : loaded.Counted
  procedures : ∀ (index : Nat) (procedure : Procedure), loaded.procedures[index]? = some procedure →
    ∃ shape, ProcedureShape.format.At contents
        (base + loaded.header.procedures.offset.toNat + index * ProcedureShape.format.size) shape ∧
      procedure.Fits loaded.ids index shape
  procedureNamed : ∀ name procedure, loaded.procedureNamed? name = some procedure ↔
    ∃ passed, First loaded.procedures (fun other => other.name = name) passed procedure
  entryPoint : loaded.entryPoint? = loaded.procedureNamed? options.entryPoint
  strings : loaded.strings.HoldsStrings contents base loaded.header.strings loaded.header.text
  signatures : ∀ call ∈ loaded.systemCalls, call.signature.length = call.params.toNat

end LoadedModule

namespace ModuleParts

variable {options : LoadOptions} {contents : List UInt8} {base : Nat} {parts : ModuleParts}

theorem length_listings (options : LoadOptions) (provider : SourceProvider) (parts : ModuleParts) :
    (parts.listings options provider).length = parts.paths.length := by
  rw [← paths_listings options provider parts, List.length_map]

variable [Memory]

theorem StandIn.counted (reads : parts.StandIn options contents base) (host : HostTable)
    (provider : SourceProvider) : (parts.assemble options host provider).Counted := by
  rcases (IdTable.read_gives _).alone reads.ids with ⟨entries, length, known⟩
  have pool := (StringPool.read_gives _ _).alone reads.strings
  have calls := (SystemCall.readTable_gives _).alone reads.calls
  constructor
  · exact (Procedure.fits_of_loadTableApart reads.procedures).1.trans
      ((Load.Gives.records _ _ _).alone reads.shapes)
  · exact (EmbeddedFile.readTable_gives _).alone reads.files
  · change parts.ids.entries.size = _
    rw [known, IdTable.ofList_eq]
    exact length
  · exact pool.size
  · exact pool.textSize
  · exact (Pass.length_apply reads.globals).trans
      ((Load.Gives.sectionBytes _).alone reads.globalData)
  · exact (Load.Gives.records _ _ _).alone reads.globalVars
  · exact (Pass.length_apply reads.locals).trans
      ((Load.Gives.sectionBytes _).alone reads.localData)
  · exact (Load.Gives.records _ _ _).alone reads.localVars
  · exact (Load.Gives.sectionWords _).alone reads.localStrings
  · exact (VariableSpace.readAll_gives _).alone reads.spaces
  · exact (Load.Gives.sectionWords _).alone reads.imports
  · exact (length_listings options provider parts).trans
      ((SourceListing.readPaths_gives _).alone reads.paths)
  · exact (SystemCall.length_relocate host parts.ids parts.calls).trans calls.length

theorem StandIn.registered (reads : parts.StandIn options contents base) (host : HostTable)
    (provider : SourceProvider) :
    (parts.assemble options host provider).Registered options contents base := by
  rcases Procedure.fits_of_loadTableApart reads.procedures with ⟨_, fits⟩
  constructor
  · exact (Header.alone_read reads.header).1
  · exact reads.counted host provider
  · intro index procedure among
    rcases fits index procedure among with ⟨shape, stored, fitsShape⟩
    exact ⟨shape, Load.alone_records reads.shapes index shape stored, fitsShape⟩
  · intro name procedure
    rw [exists_first_iff]
    change (FirstIndex.ofKeys (parts.procedures.map Procedure.name))[name]?.bind
      (parts.procedures[·]?) = _ ↔ _
    rw [FirstIndex.bind_ofKeys]
    rfl
  · rfl
  · exact StringPool.holdsStrings reads.strings
  · intro call among
    have fresh := (SystemCall.readTable_gives _).alone reads.calls
    have asked : call.request ∈ parts.calls.map SystemCall.request := by
      rw [← SystemCall.requests_relocate host parts.ids]
      exact List.mem_map_of_mem among
    rcases List.mem_map.mp asked with ⟨stored, member, same⟩
    rcases Request.mk.inj same with ⟨_, _, params, signature⟩
    rw [← params, ← signature]
    exact (fresh.each stored member).signature

end ModuleParts

namespace LoadedModule

/-- A module that a load in memory has given agrees with the contents, and its indexes with its
tables. -/
theorem load_registered [Memory] {options : LoadOptions} {host : HostTable}
    {provider : SourceProvider} {contents : List UInt8} {base : Nat} {loaded : LoadedModule}
    (loads : load options host provider (.ofBytes contents) base = .ok loaded) :
    loaded.Registered options contents base := by
  rw [load_eq_readApart, map_eq_ok] at loads
  rcases loads with ⟨parts, read, same⟩
  rw [← same]
  exact (ModuleParts.readApart_eq_ok.mp read).registered host provider

/-- A module with a procedure that has code and one that has none. -/
theorem load_sample_registered :
    let options := { LoadOptions.standard with checkData := false }
    ∃ loaded, load options [] (fun _ => none) (.ofBytes Image.sample.encode) 0 = .ok loaded ∧
      loaded.Registered options Image.sample.encode 0 := by
  intro options
  have skipped : options.pass = .skip := rfl
  have recent : options.minimumVersion ≤ Image.sample.version := by decide
  rcases Image.exists_load_sample skipped recent [] fun _ => none with ⟨loaded, loads⟩
  exact ⟨loaded, loads, load_registered loads⟩

end LoadedModule

end CompiledModule
