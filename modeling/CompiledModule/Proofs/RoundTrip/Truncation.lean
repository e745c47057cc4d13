import CompiledModule.Proofs.Reading.Enclosed
import CompiledModule.Proofs.Reading.Stored
import CompiledModule.Proofs.RoundTrip.Image
import CompiledModule.Proofs.RoundTrip.Tiling

namespace CompiledModule

/-!
# A module that was cut off

A file may lose its end.  What is left of it begins like the module, so a load reads the same bytes
until it asks for one that is gone, and it always asks for such a byte: the last bytes of a module
belong to the header or to a section that the header names, and each of these is read to its end.
The load ends with an error about the stream, because up to there it has seen a module in which it
would have found no fault.

Where less than a header is left, the header is not read.  And because the shapes of the procedures
are written last and read first, a module with procedures ends at the table of shapes.
-/

variable {front behind : List UInt8} {excuse : LoadError → Prop} {phase : Phase}

/-! ## Readings of what is left -/

/-- An action that succeeds in what is left of a module has come no further in the whole. -/
theorem Load.end_le_of_alone {action : Load α} {values : α → α → Prop} {found value : α}
    {finish : Nat}
    (coupled : Coupled excuse (Reader.Enclosed [] front behind) values action action)
    (read : alone front 0 phase action = .ok found)
    (whole : action (.over (front ++ behind) 0 phase 0) =
      .ok value (.over (front ++ behind) 0 phase finish)) : finish ≤ front.length := by
  rcases alone_eq_ok.mp read with ⟨_, after, read⟩
  have start : Reader.Enclosed [] front behind (.over front 0 phase 0)
      (.over (front ++ behind) 0 phase 0) := ⟨phase, 0, Nat.zero_le _, rfl, rfl⟩
  have ends := coupled _ _ start
  rw [read, whole] at ends
  rcases ends with ⟨_, phase', position, inside, _, same⟩
  have reached : finish = position := congrArg Reader.position same
  rwa [reached]

namespace Section.Holds

open Load

variable {part : Section} {count : Nat} {bytes : List UInt8}

/-- A section that is read from what is left of a module ends there. -/
theorem endsBy_entries {body : Nat → Load (List α)} {values : List α → List α → Prop}
    {found value : List α} (holds : part.Holds (front ++ behind) 0 count bytes)
    (reads : Reads 0 (body count) bytes value) (empty : count = 0 → bytes = [])
    (coupled : Coupled excuse (Reader.Enclosed [] front behind) values
      (part.entries body) (part.entries body))
    (read : alone front 0 phase (part.entries body) = .ok found) :
    part.EndsBy front.length bytes.length := by
  intro filled
  have counted : part.count ≠ 0 := by
    intro none
    have zero := holds.count
    rw [none] at zero
    rw [empty zero.symm] at filled
    exact absurd filled (Nat.lt_irrefl 0)
  apply end_le_of_alone coupled read
  rw [Section.entries, if_neg counted, holds.count]
  exact reads.run_at holds.stands 0

variable [Memory] [Memory.Ample]

theorem endsBy_bytes {data found : List UInt8} (excuses : Excuses excuse behind)
    (holds : part.Holds (front ++ behind) 0 data.length data)
    (read : alone front 0 phase part.bytes = .ok found) : part.EndsBy front.length data.length := by
  have reads : Reads 0 (Load.bytes data.length) data data :=
    Reads.bytes rfl (Memory.grants_bytes holds.counted)
  exact holds.endsBy_entries reads List.eq_nil_of_length_eq_zero
    (Unaware.sectionBytes excuses part) read

theorem endsBy_words {words found : List UInt32} (excuses : Excuses excuse behind)
    (holds : part.Holds (front ++ behind) 0 words.length (storedWords words))
    (read : alone front 0 phase part.words = .ok found) :
    part.EndsBy front.length (words.length * 4) := by
  have reads : Reads 0 (Load.words words.length) (storedWords words) words :=
    Reads.words rfl (Memory.grants_words holds.counted)
  rw [← length_storedWords]
  apply holds.endsBy_entries reads _ (Unaware.sectionWords excuses part) read
  intro zero
  rw [List.eq_nil_of_length_eq_zero zero]
  rfl

theorem endsBy_table {cell : Cell} {entry : Load α} {encode : β → List UInt8} {decode : β → α}
    {size : Nat} {entries : List β} {values : List α → List α → Prop} {found : List α}
    (holds : part.Holds (front ++ behind) 0 entries.length (entries.flatMap encode))
    (reads : ∀ value ∈ entries, Reads 0 entry (encode value) (decode value))
    (least : ∀ value ∈ entries, size ≤ (encode value).length)
    (coupled : Coupled excuse (Reader.Enclosed [] front behind) values
      (part.table cell size entry) (part.table cell size entry))
    (read : alone front 0 phase (part.table cell size entry) = .ok found) :
    part.EndsBy front.length (entries.flatMap encode).length := by
  apply holds.endsBy_entries (Reads.reserve_times cell holds.counted reads least) _ coupled read
  intro zero
  rw [List.eq_nil_of_length_eq_zero zero]
  rfl

/-- Records have their size, whatever they are. -/
theorem endsBy_records {cell : Cell} {format : Record α} {encode : β → List UInt8}
    {entries : List β} {found : List α} (excuses : Excuses excuse behind)
    (holds : part.Holds (front ++ behind) 0 entries.length (entries.flatMap encode))
    (length : ∀ entry, (encode entry).length = format.size)
    (read : alone front 0 phase (part.records cell format) = .ok found) :
    part.EndsBy front.length (entries.length * format.size) := by
  have reads : ∀ entry ∈ entries, Reads 0 (record format) (encode entry)
      (format.decode ⟨encode entry, length entry⟩) :=
    fun entry _ => (Reads.fixed (length entry)).bind_pure format.decode
  have least : ∀ entry ∈ entries, format.size ≤ (encode entry).length :=
    fun entry _ => Nat.le_of_eq (length entry).symm
  rw [← length_flatMap_of_length length]
  exact holds.endsBy_table reads least (Unaware.records excuses part cell format) read

end Section.Holds

/-! ## What is left of an image -/

theorem Stands.of_append {place : Nat} {part : List UInt8}
    (stands : Stands (front ++ behind) place part) (inside : place + part.length ≤ front.length) :
    Stands front place part := by
  apply Stands.of_take_drop (by omega)
  have whole := stands.take_drop
  rwa [List.drop_append_of_le_length (by omega),
    List.take_append_of_le_length (by rw [List.length_drop]; omega)] at whole

/-- The record that was written is the one that is found. -/
theorem Record.At.eq_of_stands {contents : List UInt8} {format : Record α} {value other : α}
    {place : Nat} {part : List UInt8} (found : format.At contents place value)
    (stands : Stands contents place part) (reads : format.Reads part other) : value = other := by
  rcases found with ⟨whole, decoded⟩
  have here : (contents.drop place).take format.size = part := by
    rw [← reads.length]
    exact stands.take_drop
  rw [← decoded, ← reads.decode]
  congr 2

namespace Image

theorem header_of_read {header found : Header} {minimum : UInt32}
    (stands : Stands (front ++ behind) 0 header.encode)
    (read : Load.alone front 0 phase (Header.read minimum) = .ok found) : found = header := by
  rcases Header.alone_read read with ⟨here, _⟩
  have inside : 0 + header.encode.length ≤ front.length := by
    rw [(Header.format_reads header).length]
    exact here.fits (by decide)
  have left := stands.of_append inside
  exact (Prod.mk.inj (here.eq_of_stands left (Header.format_reads header))).2

section Left

variable [Memory] [Memory.Ample]

theorem endsBy_of_standIn {image : Image} {options : LoadOptions} {parts : ModuleParts}
    (excuses : Load.Excuses excuse behind)
    (laidOut : image.LaidOut (front ++ behind) parts.header)
    (small : (front ++ behind).length ≤ largestModule)
    (signatures : ∀ call ∈ image.systemCalls, call.signature.length = call.params.toNat)
    (reads : parts.StandIn options front 0) : image.EndsBy front.length parts.header := by
  rcases StringPool.alone_read reads.strings with ⟨strings, text⟩
  rcases Load.alone_of_bind reads.ids with ⟨ids, idsRead⟩
  rcases Load.alone_of_bind reads.spaces with ⟨directory, directoryRead⟩
  rcases laidOut.files with ⟨sections, placed, files⟩
  rcases laidOut.spaces with ⟨tables, members, spaces⟩
  rcases laidOut.procedures with ⟨shapes, procedures, shapeTable⟩
  constructor
  · exact laidOut.ids.endsBy_records excuses length_idEntry idsRead
  · exact laidOut.strings.endsBy_words excuses strings
  · exact laidOut.text.endsBy_bytes excuses text
  · have same : sections.length = (image.files.map (·.1)).length := by
      rw [List.length_map, placed.length_eq]
    rw [filesSize, ← length_fileEntries same]
    exact files.endsBy_table
      (fun file member =>
        EmbeddedFile.readEntry_reads file.1 file.2 (files.length_entry small member))
      (fun file _ => length_fileEntry file)
      (EmbeddedFile.readTable_enclosed excuses _) reads.files
  · exact laidOut.imports.endsBy_words excuses reads.imports
  · exact laidOut.globalData.endsBy_bytes excuses reads.globalData
  · exact laidOut.globalVars.endsBy_records excuses
      (fun record => (Variable.format_reads record).length) reads.globalVars
  · exact laidOut.localData.endsBy_bytes excuses reads.localData
  · exact laidOut.localVars.endsBy_records excuses
      (fun record => (Variable.format_reads record).length) reads.localVars
  · exact laidOut.localStrings.endsBy_words excuses reads.localStrings
  · rw [members.length_eq]
    exact spaces.endsBy_records excuses
      (fun part => (VariableSpace.entryFormat_reads part).length) directoryRead
  · exact laidOut.sourceFiles.endsBy_table
      (fun path member =>
        SourceListing.readPath_reads path (laidOut.sourceFiles.length_entry small member))
      (fun path _ => length_pathEntry path)
      (SourceListing.readPaths_unaware excuses _) reads.paths
  · exact laidOut.systemCalls.endsBy_table
      (fun call member => SystemCall.readEntry_reads (signatures call member))
      (fun call _ => length_callEntry call)
      (SystemCall.readTable_unaware excuses _) reads.calls
  · rw [procedures.length_eq]
    exact shapeTable.endsBy_records excuses
      (fun shape => (ProcedureShape.format_reads shape).length) reads.shapes

/-- What is left of a module is no module. -/
theorem not_standIn {image : Image} {options : LoadOptions} {parts : ModuleParts}
    (whole : image.encode = front ++ behind) (small : image.encode.length ≤ largestModule)
    (signatures : ∀ call ∈ image.systemCalls, call.signature.length = call.params.toNat)
    (cut : front.length < image.encode.length) : ¬ parts.StandIn options front 0 := by
  intro reads
  rcases image.encode_laidOut small with ⟨header, laidOut⟩
  rw [whole] at header laidOut
  have same := header_of_read header reads.header
  rw [← same] at laidOut
  have excuses : Load.Excuses (fun error => error.kind = .io) behind := Or.inr fun _ => id
  have ends := endsBy_of_standIn excuses laidOut (whole ▸ small) signatures reads
  rw [same] at ends
  have inside : Header.size ≤ front.length := by
    have fits := (Header.alone_read reads.header).1.fits (by decide)
    rwa [Nat.zero_add] at fits
  exact absurd cut (Nat.not_lt.mpr (length_encode_le small inside ends))

end Left

end Image

/-! ## Where the load stops -/

namespace Load

/-- A table of records that does not fit is not read, and its phase is named. -/
theorem alone_records_short [Memory] {part : Section} {cell : Cell} {format : Record α}
    (filled : part.count ≠ 0) (countable : part.count.toNat * format.size < sizeLimit)
    (short : front.length < part.offset.toNat + part.count.toNat * format.size) :
    ∃ error, alone front 0 phase (part.records cell format) = .error error ∧
      error.phase = some phase := by
  rw [alone_eq (Nat.zero_le _), Section.records, Section.table, Section.entries, if_neg filled]
  by_cases inside : part.offset.toNat ≤ front.length - 0
  · have less : ¬ part.offset.toNat + part.count.toNat * format.size ≤ front.length - 0 :=
      Nat.not_le.mpr short
    have refused : reserveFor cell part.count.toNat format.size
        (.over front 0 phase part.offset.toNat) = _ :=
      run_bind_of_error (saturated_of_lt countable ▸ ensure_short less)
    rw [run_bind_of_ok (seek_inside inside), run_bind_of_error refused]
    exact ⟨_, rfl, rfl⟩
  · rw [run_bind_of_error (seek_outside inside)]
    exact ⟨_, rfl, rfl⟩

end Load

/-- Less than a header is not read. -/
theorem Header.alone_read_short (short : front.length < Header.size) (minimum : UInt32) :
    Load.alone front 0 phase (Header.read minimum) =
      .error (.truncated .header 0 Header.size front.length) := by
  have went : Load.seek (.start 0) (.over front 0 .header 0) = .ok 0 (.over front 0 .header 0) :=
    Load.seek_inside (Nat.zero_le _)
  have less : ¬ 0 + format.size ≤ front.length - 0 := by
    rw [Nat.zero_add]
    exact Nat.not_le.mpr short
  have refused : Load.record format (.over front 0 .header 0) = _ := Load.record_short less
  have ended : Header.read minimum (.over front 0 phase 0) =
      .error (.truncated .header 0 Header.size front.length) (.over front 0 .header 0) := by
    refine (run_bind_of_ok rfl).trans ?_
    refine (run_bind_of_ok went).trans ?_
    exact run_bind_of_error refused
  rw [Load.alone_eq (Nat.zero_le _), ended]
  rfl

namespace Image

section Loads

variable [Memory]

/-- Where the header is left and there are procedures, the table of their shapes is what is missed
first. -/
theorem readApart_short {image : Image} {options : LoadOptions}
    (whole : image.encode = front ++ behind) (small : image.encode.length ≤ largestModule)
    (recent : options.minimumVersion ≤ image.encodeWithHeader.1.version)
    (inside : Header.size ≤ front.length) (cut : front.length < image.encode.length)
    (procedures : image.procedures ≠ []) :
    ∃ error, ModuleParts.readApart options front 0 = .error error ∧
      error.phase = some .shapeTable := by
  rcases image.encode_laidOut small with ⟨header, laidOut⟩
  have ends := image.procedures_end small
  rw [whole] at header laidOut
  have left : Stands front 0 image.encodeWithHeader.1.encode := by
    apply header.of_append
    rw [(Header.format_reads _).length, Nat.zero_add]
    exact inside
  have headerRead : Load.alone front 0 .header (Header.read options.minimumVersion) =
      .ok image.encodeWithHeader.1 :=
    (Header.read_comesTo left recent).alone_eq (Nat.zero_le _)
  rcases laidOut.procedures with ⟨shapes, placed, table⟩
  have count : image.encodeWithHeader.1.procedures.count.toNat = image.procedures.length := by
    rw [table.count, placed.length_eq]
  have filled : image.encodeWithHeader.1.procedures.count ≠ 0 := by
    intro none
    rw [none] at count
    exact procedures (List.eq_nil_of_length_eq_zero count.symm)
  rw [← count] at ends
  have countable : image.encodeWithHeader.1.procedures.count.toNat * ProcedureShape.format.size <
      sizeLimit :=
    Nat.lt_of_le_of_lt (Nat.le_trans (Nat.le_add_left _ _) (Nat.le_of_eq ends))
      (Nat.lt_of_le_of_lt small (by decide))
  have missing : ∃ error, Load.alone front 0 .shapeTable
      (ProcedureShape.readTable image.encodeWithHeader.1.procedures) = .error error ∧
        error.phase = some .shapeTable :=
    Load.alone_records_short filled countable (ends ▸ cut)
  rcases missing with ⟨error, refused, named⟩
  refine ⟨error, ?_, named⟩
  rw [ModuleParts.readApart, headerRead]
  change (Load.alone front 0 .shapeTable (ProcedureShape.readTable _) >>= _) = _
  rw [refused]
  rfl

/-- A module that can be loaded has the version that is asked for. -/
theorem recent_of_load {image : Image} {options : LoadOptions} {host : HostTable}
    {provider : SourceProvider} {loaded : LoadedModule}
    (small : image.encode.length ≤ largestModule)
    (loads : LoadedModule.load options host provider (.ofBytes image.encode) 0 = .ok loaded) :
    options.minimumVersion ≤ image.encodeWithHeader.1.version := by
  rw [LoadedModule.load_eq_readApart, map_eq_ok] at loads
  rcases loads with ⟨parts, read, _⟩
  have reads := ModuleParts.readApart_eq_ok.mp read
  have header := (image.encode_laidOut small).1
  rw [← List.append_nil image.encode] at header
  rw [← header_of_read header reads.header]
  exact (Header.alone_read reads.header).2

variable [Memory.Ample]

/-- What is left of a module that can be loaded is refused, with an error about the stream. -/
theorem load_front {image : Image} {options : LoadOptions} {host : HostTable}
    {provider : SourceProvider} {loaded : LoadedModule}
    (whole : image.encode = front ++ behind) (small : image.encode.length ≤ largestModule)
    (signatures : ∀ call ∈ image.systemCalls, call.signature.length = call.params.toNat)
    (loads : LoadedModule.load options host provider (.ofBytes image.encode) 0 = .ok loaded)
    (cut : front.length < image.encode.length) :
    ∃ error, LoadedModule.load options host provider (.ofBytes front) 0 = .error error ∧
      error.kind = .io := by
  have excuses : Load.Excuses (fun error => error.kind = .io) behind := Or.inr fun _ => id
  rcases LoadedModule.load_enclosed [] front excuses options host provider with same | refused
  · rw [List.nil_append, List.length_nil, ← whole, loads] at same
    cases left : LoadedModule.load options host provider (.ofBytes front) 0 with
    | ok found =>
      rw [LoadedModule.load_eq_readApart, map_eq_ok] at left
      rcases left with ⟨parts, read, _⟩
      have reads := ModuleParts.readApart_eq_ok.mp read
      exact absurd reads (not_standIn whole small signatures cut)
    | error error =>
      rw [left] at same
      cases same
  · exact refused

/-- No part of a module from its beginning on is accepted, except all of it.  The load of what is
left ends with an error about the stream: in the header, if that is not whole, and otherwise in the
table of shapes, if the module has procedures. -/
theorem load_truncated {image : Image} (small : image.encode.length ≤ largestModule)
    (signatures : ∀ call ∈ image.systemCalls, call.signature.length = call.params.toNat)
    {options : LoadOptions} {host : HostTable} {provider : SourceProvider} {loaded : LoadedModule}
    (loads : LoadedModule.load options host provider (.ofBytes image.encode) 0 = .ok loaded)
    {kept : Nat} (cut : kept < image.encode.length) :
    ∃ error,
      LoadedModule.load options host provider (.ofBytes (image.encode.take kept)) 0 =
        .error error ∧
      error.kind = .io ∧
      (kept < Header.size → error.phase = some .header) ∧
      (Header.size ≤ kept → image.procedures ≠ [] → error.phase = some .shapeTable) := by
  have whole : image.encode = image.encode.take kept ++ image.encode.drop kept :=
    (List.take_append_drop kept image.encode).symm
  have left : (image.encode.take kept).length = kept := List.length_take_of_le (Nat.le_of_lt cut)
  have fewer : (image.encode.take kept).length < image.encode.length := left.symm ▸ cut
  rcases load_front whole small signatures loads fewer with ⟨error, failed, kind⟩
  refine ⟨error, failed, kind, ?_⟩
  rw [LoadedModule.load_eq_readApart, map_eq_error] at failed
  constructor
  · intro short
    rw [← left] at short
    rw [ModuleParts.readApart, Header.alone_read_short short] at failed
    cases failed
    rfl
  · intro inside procedures
    rw [← left] at inside
    have recent := recent_of_load small loads
    rcases readApart_short whole small recent inside fewer procedures with ⟨first, stopped, named⟩
    rw [stopped] at failed
    cases failed
    exact named

end Loads

/-- A module that ends after two hundred of its bytes. -/
theorem load_sample_truncated :
    let options := { LoadOptions.standard with checkData := false }
    ∃ error, LoadedModule.load options [] (fun _ => none) (.ofBytes (sample.encode.take 200)) 0 =
        .error error ∧
      error.kind = .io ∧ error.phase = some .shapeTable := by
  intro options
  have skipped : options.pass = .skip := rfl
  have recent : options.minimumVersion ≤ sample.version := by decide
  rcases exists_load_sample skipped recent [] fun _ => none with ⟨loaded, loads⟩
  have cut : 200 < sample.encode.length := by decide +kernel
  rcases load_truncated storable_sample.small storable_sample.signatures loads cut with
    ⟨error, failed, kind, _, table⟩
  have inside : Header.size ≤ 200 := by decide
  have procedures : sample.procedures ≠ [] := by decide
  exact ⟨error, failed, kind, table inside procedures⟩

end Image

end CompiledModule
