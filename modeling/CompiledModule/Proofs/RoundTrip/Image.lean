import CompiledModule.Proofs.Lookup.Resolution
import CompiledModule.Proofs.RoundTrip.Procedures
import CompiledModule.Proofs.RoundTrip.Strings

namespace CompiledModule

/-!
# Loading the module of an image

An image that is written and loaded again comes back whole.  The conditions are those without which
the file cannot hold it: the offsets have to fit in words, a name, a path or a string ends at its
first zero byte, the slot of a name has 64 bytes, and a signature is as long as the call has
parameters.  Types, offsets and codes need not make sense, because without a pass over the blocks
nothing follows them.

The load is taken apart into its readings.  Each of them is answered by the section that stands where
the header says, so the whole load comes to the parts of the image.
-/

/-- The image loses nothing when it is written. -/
structure Image.Storable (image : Image) : Prop where
  small : image.encode.length ≤ largestModule
  idNames : ∀ entry ∈ image.ids, Utf8.ZeroFree entry.name ∧
    (Utf8.encode entry.name).length ≤ IdTable.nameSize - 1
  strings : ∀ text ∈ image.strings, Utf8.ZeroFree text
  fileNames : ∀ file ∈ image.files, Utf8.ZeroFree file.1
  paths : ∀ path ∈ image.sourceFiles, Utf8.ZeroFree path
  signatures : ∀ call ∈ image.systemCalls, call.signature.length = call.params.toNat

/-- The file is the one that an image has with this name and these contents, which stand where the
file says. -/
structure EmbeddedFile.Carries (contents : List UInt8) (file : String × List UInt8)
    (found : EmbeddedFile) : Prop where
  name : found.name = file.1
  size : found.size.toNat = file.2.length
  stands : Stands contents found.offset file.2

/-- The procedure is the one that an image with these names has as its number `index`.  A part that
is empty is absent.  Without code there are no handlers, and an offset of 0 says that there is
none. -/
structure ProcedureImage.LoadedAs (image : ProcedureImage) (ids : List IdEntry) (index : Nat)
    (loaded : Procedure) : Prop where
  index : loaded.index = index
  id : loaded.id = image.id
  name : IdTable.Names ids image.id loaded.name
  flags : loaded.flags.bits = image.flags
  params : loaded.params = image.params
  sentenceCount : loaded.sentenceCount = 0
  privateData : loaded.privateData =
    if image.privateData = [] then none else some image.privateData
  publicData : loaded.publicData = if image.publicData = [] then none else some image.publicData
  code : loaded.code = if image.code = [] then none else some image.code
  privateStrings : loaded.privateStrings = image.privateStrings
  publicStrings : loaded.publicStrings = image.publicStrings
  privateVars : loaded.privateVars = image.privateVars
  publicVars : loaded.publicVars = image.publicVars
  exitAt : loaded.exitAt = if image.code = [] ∨ image.exitAt = 0 then none else some image.exitAt
  errorAt : loaded.errorAt =
    if image.code = [] ∨ image.errorAt = 0 then none else some image.errorAt

/-- The loaded module has everything that the image has, in its order, and nothing else.  System
calls may have been bound. -/
structure Image.LoadedAs (image : Image) (loaded : LoadedModule) : Prop where
  header : loaded.header = image.encodeWithHeader.1
  ids : loaded.ids.entries.toList = image.ids
  stringCount : loaded.strings.size = image.strings.length
  strings : ∀ index, loaded.strings.get? index = image.strings[index]?.map Utf8.encode
  files : List.Forall₂ (EmbeddedFile.Carries image.encode) image.files loaded.files
  imports : loaded.imports = image.imports
  globalData : loaded.globalData = image.globalData
  globalVars : loaded.globalVars = image.globalVars
  localData : loaded.localData = image.localData
  localVars : loaded.localVars = image.localVars
  localStrings : loaded.localStrings = image.localStrings
  spaces : loaded.spaces = image.spaces
  paths : loaded.listings.map SourceListing.path = image.sourceFiles
  systemCalls : loaded.systemCalls.map SystemCall.unbound =
    image.systemCalls.map SystemCall.unbound
  procedures : List.Forall₂
    (fun numbered procedure => numbered.1.LoadedAs image.ids numbered.2 procedure)
    image.procedures.zipIdx loaded.procedures

/-! ## The readings -/

section Readings

variable {contents : List UInt8} {base : Nat} {phase : Phase}

/-- A header that is recent enough is accepted. -/
theorem Header.read_comesTo {header : Header} {minimum : UInt32}
    (stands : Stands contents base header.encode) (recent : minimum ≤ header.version) :
    Load.ComesTo contents base phase .header (Header.read minimum) (.ok header) := by
  have known : ¬ (Header.magic ≠ Header.magic) := not_not_intro rfl
  have accepted : ¬ (header.version < minimum) := UInt32.not_lt.mpr recent
  unfold Header.read
  apply Load.ComesTo.enter_bind
  apply Load.Reads.comes_at
  · apply (Load.Reads.record header.format_reads).bind_nil
    simp only [if_neg known, if_neg accepted]
    exact Load.Reads.pure header
  · exact stands

/-- The files of an image, in a module in which their contents have been placed. -/
theorem EmbeddedFile.carries_placed {files : List (String × List UInt8)} {sections : List Section}
    (placed : List.Forall₂ (fun file part => part.Holds contents 0 file.2.length file.2)
      files sections) :
    List.Forall₂ (EmbeddedFile.Carries contents) files
      (((files.map (·.1)).zip sections).map fun file =>
        ⟨file.1, 0 + file.2.offset.toNat, file.2.count⟩) := by
  induction placed with
  | nil => exact List.Forall₂.nil
  | cons here _ ih =>
    apply List.Forall₂.cons
    · exact ⟨rfl, here.count, here.stands⟩
    · exact ih

theorem ProcedureImage.loadedAs_procedure (image : ProcedureImage) (ids : List IdEntry)
    (index : Nat) : image.LoadedAs ids index (image.procedure (.ofList ids) index) where
  index := rfl
  id := rfl
  name := IdTable.names_nameFor ids image.id
  flags := rfl
  params := rfl
  sentenceCount := rfl
  privateData := rfl
  publicData := rfl
  code := rfl
  privateStrings := rfl
  publicStrings := rfl
  privateVars := rfl
  publicVars := rfl
  exitAt := rfl
  errorAt := rfl

/-- The induction is on the images, which are numbered from any number on. -/
theorem ProcedureImage.forall_loadedAs (images : List ProcedureImage) (ids : List IdEntry)
    (first : Nat) :
    List.Forall₂ (fun numbered procedure => numbered.1.LoadedAs ids numbered.2 procedure)
      (images.zipIdx first)
      (images.mapIdx fun index image => image.procedure (.ofList ids) (first + index)) := by
  induction images generalizing first with
  | nil => exact List.Forall₂.nil
  | cons image rest ih =>
    rw [List.zipIdx_cons, List.mapIdx_cons]
    apply List.Forall₂.cons
    · exact image.loadedAs_procedure ids first
    · have others := ih (first + 1)
      simp only [Nat.add_right_comm, Nat.add_assoc] at others ⊢
      exact others

end Readings

namespace Image

/-- What is read of the module of an image, besides its files and the shapes of its procedures. -/
def parts (image : Image) (files : List EmbeddedFile) (shapes : List ProcedureShape) :
    ModuleParts where
  header := image.encodeWithHeader.1
  shapes
  strings := .ofStrings image.strings
  files
  imports := image.imports
  ids := .ofList image.ids
  globalData := image.globalData
  globalVars := image.globalVars
  localData := image.localData
  localVars := image.localVars
  localStrings := image.localStrings
  spaces := image.spaces
  globals := ⟨[], image.globalData⟩
  locals := ⟨[], image.localData⟩
  paths := image.sourceFiles
  procedures := image.procedures.mapIdx (ProcedureImage.procedure (.ofList image.ids))
  calls := image.systemCalls.map SystemCall.unbound

theorem Storable.loadedAs {image : Image} (storable : image.Storable) {files : List EmbeddedFile}
    (carries : List.Forall₂ (EmbeddedFile.Carries image.encode) image.files files)
    (shapes : List ProcedureShape) (options : LoadOptions) (host : HostTable)
    (provider : SourceProvider) :
    image.LoadedAs ((image.parts files shapes).assemble options host provider) := by
  have text := (image.encode_laidOut storable.small).2.text.stands.fits
  have small := storable.small
  constructor
  · rfl
  · exact IdTable.toList_ofList image.ids
  · exact StringPool.size_ofStrings image.strings
  · exact StringPool.get?_ofStrings (by omega) storable.strings
  · exact carries
  · rfl
  · rfl
  · rfl
  · rfl
  · rfl
  · rfl
  · rfl
  · exact ModuleParts.paths_listings options provider (image.parts files shapes)
  · change (SystemCall.relocate host _ (image.systemCalls.map SystemCall.unbound)).map
      SystemCall.unbound = _
    rw [SystemCall.unbound_relocate, List.map_map]
    rfl
  · have numbered := ProcedureImage.forall_loadedAs image.procedures image.ids 0
    simp only [Nat.zero_add] at numbered
    exact numbered

/-- A module whose global variable has a type that makes no sense, with a file, two spaces, and a
procedure with code before one without. -/
def sample : Image where
  version := Header.currentVersion
  ids := [⟨1, "MAIN"⟩, ⟨1, "Zähler"⟩]
  strings := ["", "zwölf"]
  files := [("notes.txt", [0x6F, 0x6B])]
  imports := [7]
  globalData := [0xFF, 0, 1]
  globalVars := [⟨⟨Vector.replicate 8 ⟨17, 3⟩, 5⟩, 1, 9, 0⟩]
  localData := []
  localVars := []
  localStrings := [1, 0]
  spaces := [[], [⟨⟨Vector.replicate 8 ⟨6, 0⟩, 0⟩, 2, 0, 1⟩]]
  sourceFiles := ["main.src"]
  systemCalls := [⟨1, 0, 2, 40, [6, 6], none⟩]
  procedures := [
    ⟨1, 4, 0, [], [], [1], [9], [], [], [11, 12, 13], 8, 0⟩,
    ⟨2, 0, 1, [], [], [], [], [], [], [], 4, 4⟩]

theorem storable_sample : sample.Storable := by
  constructor <;> decide +kernel

section Loads

variable [Memory] [Memory.Ample]

/-- Every reading of the module of an image succeeds. -/
theorem Storable.standIn {image : Image} (storable : image.Storable) {options : LoadOptions}
    (skipped : options.pass = .skip) (recent : options.minimumVersion ≤ image.version) :
    ∃ files shapes, List.Forall₂ (EmbeddedFile.Carries image.encode) image.files files ∧
      (image.parts files shapes).StandIn options image.encode 0 := by
  have inModule : 0 ≤ image.encode.length := Nat.zero_le _
  rcases image.encode_laidOut storable.small with ⟨header, laidOut⟩
  rcases laidOut.files with ⟨sections, placed, files⟩
  rcases laidOut.spaces with ⟨tables, members, directory⟩
  rcases laidOut.procedures with ⟨shapes, procedures, shapeTable⟩
  have accepted : options.minimumVersion ≤ image.encodeWithHeader.1.version := by
    rw [laidOut.version]
    exact recent
  have fileNames : ∀ file ∈ (image.files.map (·.1)).zip sections, Utf8.ZeroFree file.1 := by
    intro file member
    rcases List.mem_map.mp (List.of_mem_zip member).1 with ⟨written, among, same⟩
    rw [← same]
    exact storable.fileNames written among
  refine ⟨_, shapes, EmbeddedFile.carries_placed placed, ?_⟩
  constructor
  · exact (Header.read_comesTo header accepted).alone_eq inModule
  · exact shapeTable.comes_shapes.alone_eq inModule
  · exact (laidOut.strings.comes_pool laidOut.text).alone_eq inModule
  · exact (files.comes_files storable.small fileNames).alone_eq inModule
  · exact laidOut.imports.comes_words.alone_eq inModule
  · exact (laidOut.ids.comes_ids storable.idNames).alone_eq inModule
  · exact laidOut.globalData.comes_bytes.alone_eq inModule
  · exact laidOut.globalVars.comes_variables.alone_eq inModule
  · exact laidOut.localData.comes_bytes.alone_eq inModule
  · exact laidOut.localVars.comes_variables.alone_eq inModule
  · exact laidOut.localStrings.comes_words.alone_eq inModule
  · exact (directory.comes_spaces members).alone_eq inModule
  · rw [skipped]
    rfl
  · rw [skipped]
    rfl
  · exact (laidOut.sourceFiles.comes_paths storable.small storable.paths).alone_eq inModule
  · rw [skipped]
    exact ProcedureImage.loadTableApart_eq procedures shapeTable.counted image.spaces _ []
  · exact (laidOut.systemCalls.comes_calls storable.signatures).alone_eq inModule

/-- Loading undoes writing, for every host that has the order of the file and checks nothing. -/
theorem load_encode {image : Image} (storable : image.Storable) {options : LoadOptions}
    (sameOrder : options.hostOrder = .little) (unchecked : options.checkData = false)
    (recent : options.minimumVersion ≤ image.version) (host : HostTable)
    (provider : SourceProvider) :
    ∃ loaded, LoadedModule.load options host provider (.ofBytes image.encode) 0 = .ok loaded ∧
      image.LoadedAs loaded := by
  have skipped : options.pass = .skip := by
    unfold LoadOptions.pass
    rw [sameOrder, unchecked]
    rfl
  rcases storable.standIn skipped recent with ⟨files, shapes, carries, reads⟩
  refine ⟨_, ?_, storable.loadedAs carries shapes options host provider⟩
  rw [LoadedModule.load_eq_readApart, ModuleParts.readApart_eq_ok.mpr reads]
  rfl

/-- The sample can be loaded by whoever does not check data. -/
theorem exists_load_sample {options : LoadOptions} (skipped : options.pass = .skip)
    (recent : options.minimumVersion ≤ sample.version) (host : HostTable)
    (provider : SourceProvider) :
    ∃ loaded, LoadedModule.load options host provider (.ofBytes sample.encode) 0 = .ok loaded := by
  rcases storable_sample.standIn skipped recent with ⟨files, shapes, _, reads⟩
  rw [LoadedModule.load_eq_readApart, ModuleParts.readApart_eq_ok.mpr reads]
  exact ⟨_, rfl⟩

end Loads

/-- The first procedure has the handler that it is written with.  The second one has no code. -/
theorem load_encode_sample :
    ∃ loaded, LoadedModule.load { LoadOptions.standard with checkData := false } []
        (fun _ => none) (.ofBytes sample.encode) 0 = .ok loaded ∧ sample.LoadedAs loaded ∧
      loaded.procedures.map (fun procedure => (procedure.exitAt, procedure.errorAt)) =
        [(some 8, none), (none, none)] := by
  have comes : ∃ loaded, LoadedModule.load { LoadOptions.standard with checkData := false } []
      (fun _ => none) (.ofBytes sample.encode) 0 = .ok loaded ∧ sample.LoadedAs loaded :=
    load_encode storable_sample rfl rfl (by decide) [] fun _ => none
  rcases comes with ⟨loaded, loads, whole⟩
  refine ⟨loaded, loads, whole, ?_⟩
  have numbered := whole.procedures
  generalize loaded.procedures = procedures at numbered ⊢
  cases numbered with
  | cons first others =>
    cases others with
    | cons second none =>
      cases none
      rw [List.map_cons, List.map_cons, List.map_nil, first.exitAt, first.errorAt, second.exitAt,
        second.errorAt]
      rfl

end Image

end CompiledModule
