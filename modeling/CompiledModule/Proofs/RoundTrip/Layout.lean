import CompiledModule.Image
import CompiledModule.Proofs.RoundTrip.Placed

namespace CompiledModule

/-!
# Where an image is laid out

Writing an image goes forward only: what has been written stays, and more is added behind it.  So a
part that has been placed stands at its offset in the finished module, whatever is written
afterwards, and because the finished module has no more than 0xFFFFFFFF bytes, no offset and no count
had to be cut.

`Draft.Writes` states a property of what a draft gives, for every finished module that it may become
a part of.  The properties of all sections together are those of a module that is laid out: the
header and the tables say where everything stands, and it stands there.
-/

/-- The largest module whose offsets all fit in words. -/
def largestModule : Nat := 0xFFFFFFFF

theorem toNat_storedCount {count : Nat} (small : count ≤ largestModule) :
    (storedCount count).toNat = count := by
  unfold storedCount
  have whole : count ≤ 0xFFFFFFFF := small
  have word : count < UInt32.size := Nat.lt_of_le_of_lt small (by decide)
  rw [if_pos whole, UInt32.toNat_ofNat_of_lt' word]

/-- What has been written stands behind the header of a module. -/
def Written.Fits (written : Written) (contents : List UInt8) : Prop :=
  ∃ head after, head.length = Header.size ∧ contents = head ++ written.bytes ++ after

/-- What the draft gives has this property in every module that the draft becomes a part of. -/
def Draft.Writes (draft : Draft α) (property : List UInt8 → α → Prop) : Prop :=
  ∀ contents written, contents.length ≤ largestModule → (draft written).2.Fits contents →
    written.Fits contents ∧ property contents (draft written).1

namespace Draft.Writes

theorem pure {property : List UInt8 → α → Prop} {value : α}
    (holds : ∀ contents, property contents value) : Writes (pure value) property :=
  fun contents _ _ fits => ⟨fits, holds contents⟩

/-- What has been found of the first draft may be used for what the second one gives. -/
theorem bind {first : Draft α} {next : α → Draft β} {found : List UInt8 → α → Prop}
    {property : List UInt8 → β → Prop} (writes : Writes first found)
    (goesOn : ∀ value, Writes (next value) fun contents result =>
      found contents value → property contents result) :
    Writes (first >>= next) property := by
  intro contents written small fits
  rcases goesOn (first written).1 contents (first written).2 small fits with ⟨fitsFirst, implied⟩
  rcases writes contents written small fitsFirst with ⟨fitsWritten, holds⟩
  exact ⟨fitsWritten, implied holds⟩

theorem mapM {draft : α → Draft β} (found : α → List UInt8 → β → Prop)
    (writes : ∀ entry, Writes (draft entry) (found entry)) (entries : List α) :
    Writes (entries.mapM draft) fun contents values =>
      List.Forall₂ (fun entry value => found entry contents value) entries values := by
  induction entries with
  | nil => exact pure fun _ => List.Forall₂.nil
  | cons entry rest ih =>
    rw [List.mapM_cons]
    apply bind (writes entry)
    intro first
    apply bind ih
    intro others
    exact pure fun _ foundOthers foundFirst => List.Forall₂.cons foundFirst foundOthers

theorem place {count : Nat} {part : List UInt8} (least : count ≤ part.length) :
    Writes (place count part) fun contents placed => placed.Holds contents 0 count part := by
  rintro contents written small ⟨head, after, size, rfl⟩
  have added : (Draft.place count part written).2.bytes = written.bytes ++ part :=
    Written.bytes_add written part
  rw [added] at small ⊢
  have length : Header.size + written.length + part.length + after.length ≤ largestModule := by
    simpa only [List.length_append, Written.length_bytes, size, Nat.add_assoc] using small
  have offset : (storedCount (Header.size + written.length)).toNat =
      Header.size + written.length := toNat_storedCount (by omega)
  have stands : Stands (head ++ (written.bytes ++ part) ++ after)
      (Header.size + written.length) part := by
    refine ⟨head ++ written.bytes, after, ?_, ?_⟩
    · simp only [List.append_assoc]
    · rw [List.length_append, Written.length_bytes, size]
  have fits : written.Fits (head ++ (written.bytes ++ part) ++ after) := by
    refine ⟨head, part ++ after, size, ?_⟩
    simp only [List.append_assoc]
  refine ⟨fits, ?_⟩
  constructor
  · exact toNat_storedCount (by omega)
  · change Stands _ (0 + (storedCount (Header.size + written.length)).toNat) part
    rw [offset, Nat.zero_add]
    exact stands

theorem bytes (data : List UInt8) :
    Writes (bytes data) fun contents placed => placed.Holds contents 0 data.length data :=
  place (Nat.le_refl _)

theorem words (values : List UInt32) :
    Writes (words values) fun contents placed =>
      placed.Holds contents 0 values.length (storedWords values) := by
  apply place
  rw [length_storedWords]
  omega

theorem table {encode : α → List UInt8} {entries : List α}
    (some' : ∀ entry ∈ entries, 1 ≤ (encode entry).length) :
    Writes (table encode entries) fun contents placed =>
      placed.Holds contents 0 entries.length (entries.flatMap encode) := by
  apply place
  have least := mul_le_length_flatMap some'
  omega

/-- The records of a table have all the same size. -/
theorem records {format : Record α} {encode : α → List UInt8} {entries : List α}
    (reads : ∀ entry ∈ entries, format.Reads (encode entry) entry) (positive : 1 ≤ format.size) :
    Writes (Draft.table encode entries) fun contents placed =>
      placed.Holds contents 0 entries.length (entries.flatMap encode) := by
  apply table
  intro entry member
  rw [(reads entry member).length]
  exact positive

end Draft.Writes

/-! ## Procedures -/

/-- The shape says where the parts of the procedure stand in a module. -/
structure ProcedureImage.LaidOut (image : ProcedureImage) (contents : List UInt8)
    (shape : ProcedureShape) : Prop where
  id : shape.id = image.id
  flags : shape.flags = image.flags
  params : shape.params = image.params
  sentences : shape.sentences.count = 0
  exitAt : shape.exitAt = image.exitAt
  errorAt : shape.errorAt = image.errorAt
  privateData :
    shape.privateData.Holds contents 0 image.privateData.length image.privateData
  publicData : shape.publicData.Holds contents 0 image.publicData.length image.publicData
  code : shape.code.Holds contents 0 (image.code.length * 4) (storedWords image.code)
  privateStrings :
    shape.privateStrings.Holds contents 0 image.privateStrings.length
      (storedWords image.privateStrings)
  publicStrings :
    shape.publicStrings.Holds contents 0 image.publicStrings.length
      (storedWords image.publicStrings)
  privateVars :
    shape.privateVars.Holds contents 0 image.privateVars.length
      (image.privateVars.flatMap Variable.encode)
  publicVars :
    shape.publicVars.Holds contents 0 image.publicVars.length
      (image.publicVars.flatMap Variable.encode)

theorem Draft.Writes.variables (vars : List Variable) :
    Writes (Draft.table Variable.encode vars) fun contents placed =>
      placed.Holds contents 0 vars.length (vars.flatMap Variable.encode) :=
  records (fun record _ => Variable.format_reads record) (by decide)

theorem ProcedureImage.draft_writes (image : ProcedureImage) :
    Draft.Writes image.draft image.LaidOut := by
  unfold ProcedureImage.draft
  apply Draft.Writes.bind (.bytes _)
  intro privateData
  apply Draft.Writes.bind (.bytes _)
  intro publicData
  have code : image.code.length * 4 ≤ (storedWords image.code).length :=
    Nat.le_of_eq (length_storedWords _).symm
  apply Draft.Writes.bind (.place code)
  intro code
  apply Draft.Writes.bind (.words _)
  intro privateStrings
  apply Draft.Writes.bind (.words _)
  intro publicStrings
  apply Draft.Writes.bind (.variables _)
  intro privateVars
  apply Draft.Writes.bind (.variables _)
  intro publicVars
  apply Draft.Writes.pure
  intro contents publicVars privateVars publicStrings privateStrings code publicData privateData
  exact ⟨rfl, rfl, rfl, rfl, rfl, rfl, privateData, publicData, code, privateStrings,
    publicStrings, privateVars, publicVars⟩

/-! ## Images -/

def Image.fileEntry (file : String × Section) : List UInt8 :=
  EmbeddedFile.encodeEntry file.1 file.2 (storedCount (zeroEnded file.1).length)

def Image.pathEntry (path : String) : List UInt8 :=
  SourceListing.encodePath path (storedCount (zeroEnded path).length)

/-- The header says where the parts of an image stand in a module. -/
structure Image.LaidOut (image : Image) (contents : List UInt8) (header : Header) : Prop where
  version : header.version = image.version
  ids : header.ids.Holds contents 0 image.ids.length (image.ids.flatMap IdTable.encodeEntry)
  strings :
    header.strings.Holds contents 0 (stringStarts 0 image.strings).length
      (storedWords (stringStarts 0 image.strings))
  text :
    header.text.Holds contents 0 (image.strings.flatMap zeroEnded).length
      (image.strings.flatMap zeroEnded)
  files : ∃ sections,
    List.Forall₂ (fun file part => part.Holds contents 0 file.2.length file.2)
      image.files sections ∧
    header.files.Holds contents 0 ((image.files.map (·.1)).zip sections).length
      (((image.files.map (·.1)).zip sections).flatMap fileEntry)
  imports : header.imports.Holds contents 0 image.imports.length (storedWords image.imports)
  globalData : header.globalData.Holds contents 0 image.globalData.length image.globalData
  globalVars :
    header.globalVars.Holds contents 0 image.globalVars.length
      (image.globalVars.flatMap Variable.encode)
  localData : header.localData.Holds contents 0 image.localData.length image.localData
  localVars :
    header.localVars.Holds contents 0 image.localVars.length
      (image.localVars.flatMap Variable.encode)
  localStrings :
    header.localStrings.Holds contents 0 image.localStrings.length
      (storedWords image.localStrings)
  spaces : ∃ tables,
    List.Forall₂ (fun space part => part.Holds contents 0 space.length
      (space.flatMap Variable.encode)) image.spaces tables ∧
    header.spaces.Holds contents 0 tables.length (tables.flatMap VariableSpace.encodeEntry)
  sourceFiles :
    header.sourceFiles.Holds contents 0 image.sourceFiles.length
      (image.sourceFiles.flatMap pathEntry)
  systemCalls :
    header.systemCalls.Holds contents 0 image.systemCalls.length
      (image.systemCalls.flatMap SystemCall.encode)
  procedures : ∃ shapes,
    List.Forall₂ (fun procedure shape => procedure.LaidOut contents shape)
      image.procedures shapes ∧
    header.procedures.Holds contents 0 shapes.length (shapes.flatMap ProcedureShape.encode)

namespace Image

theorem length_fileEntry (file : String × Section) : 12 ≤ (fileEntry file).length := by
  unfold fileEntry EmbeddedFile.encodeEntry
  rw [List.length_append, List.length_append, length_storedWords]
  simp only [List.length_cons]
  omega

theorem length_pathEntry (path : String) : 4 ≤ (pathEntry path).length := by
  unfold pathEntry SourceListing.encodePath
  rw [List.length_append, List.length_append, length_storedWord]
  omega

theorem length_callEntry (call : SystemCall) : 16 ≤ call.encode.length := by
  unfold SystemCall.encode
  rw [List.length_append, length_storedWords]
  simp only [List.length_cons]
  omega

theorem length_idEntry (entry : IdEntry) :
    (IdTable.encodeEntry entry).length = IdTable.format.size := by
  rw [IdTable.encodeEntry, List.length_append, List.length_append, length_storedSlot,
    length_storedWord]
  rfl

/-- Each section is placed with the property that its reading asks for. -/
theorem draft_writes (image : Image) : Draft.Writes image.draft image.LaidOut := by
  unfold Image.draft
  apply Draft.Writes.bind
    (.table fun entry _ => Nat.le_trans (by decide) (Nat.le_of_eq (length_idEntry entry).symm))
  intro ids
  apply Draft.Writes.bind (.words _)
  intro strings
  apply Draft.Writes.bind (.bytes _)
  intro text
  apply Draft.Writes.bind
    (.mapM (fun file contents part => part.Holds contents 0 file.2.length file.2)
      (fun file => .bytes file.2) _)
  intro sections
  have files : Draft.Writes (Draft.table fileEntry ((image.files.map (·.1)).zip sections)) _ :=
    .table fun file _ => Nat.le_trans (by decide) (length_fileEntry file)
  apply Draft.Writes.bind files
  intro files
  apply Draft.Writes.bind (.words _)
  intro imports
  apply Draft.Writes.bind (.bytes _)
  intro globalData
  apply Draft.Writes.bind (.variables _)
  intro globalVars
  apply Draft.Writes.bind (.bytes _)
  intro localData
  apply Draft.Writes.bind (.variables _)
  intro localVars
  apply Draft.Writes.bind (.words _)
  intro localStrings
  apply Draft.Writes.bind (.mapM _ Draft.Writes.variables _)
  intro tables
  apply Draft.Writes.bind
    (.records (fun part _ => VariableSpace.entryFormat_reads part) (by decide))
  intro spaces
  have paths : Draft.Writes (Draft.table pathEntry image.sourceFiles) _ :=
    .table fun path _ => Nat.le_trans (by decide) (length_pathEntry path)
  apply Draft.Writes.bind paths
  intro sourceFiles
  apply Draft.Writes.bind
    (.table fun call _ => Nat.le_trans (by decide) (length_callEntry call))
  intro systemCalls
  apply Draft.Writes.bind (.mapM _ ProcedureImage.draft_writes _)
  intro shapes
  apply Draft.Writes.bind
    (.records (fun shape _ => ProcedureShape.format_reads shape) (by decide))
  intro procedures
  apply Draft.Writes.pure
  intro contents procedures shapesLaidOut systemCalls sourceFiles spaces tablesLaidOut localStrings
    localVars localData globalVars globalData imports files sectionsLaidOut text strings ids
  exact ⟨rfl, ids, strings, text, ⟨sections, sectionsLaidOut, files⟩, imports, globalData,
    globalVars, localData, localVars, localStrings, ⟨tables, tablesLaidOut, spaces⟩, sourceFiles,
    systemCalls, shapes, shapesLaidOut, procedures⟩

/-- A module that is not too large begins with its header and is laid out as the header says. -/
theorem encode_laidOut (image : Image) (small : image.encode.length ≤ largestModule) :
    Stands image.encode 0 image.encodeWithHeader.1.encode ∧
      image.LaidOut image.encode image.encodeWithHeader.1 := by
  have size : image.encodeWithHeader.1.encode.length = Header.size :=
    (Header.format_reads _).length
  have whole : image.encode =
      [] ++ image.encodeWithHeader.1.encode ++ (image.draft .empty).2.bytes := rfl
  have fits : (image.draft .empty).2.Fits image.encode := by
    refine ⟨image.encodeWithHeader.1.encode, [], size, ?_⟩
    rw [List.append_nil]
    exact whole
  exact ⟨⟨[], _, whole, rfl⟩, (image.draft_writes image.encode .empty small fits).2⟩

end Image

end CompiledModule
