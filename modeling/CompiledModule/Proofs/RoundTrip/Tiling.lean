import CompiledModule.Proofs.RoundTrip.Layout
import Mathlib.Algebra.Ring.Nat

namespace CompiledModule

/-!
# Where an image ends

The parts of an image are written without gaps, and the contents of files, the members of spaces and
the parts of procedures are followed by the table that refers to them.  So the last byte of a module
belongs to its header or to a section that the header itself names.  If all these sections end by
some place, then so does the module.

`Draft.EndsBy` states this of a draft, of any place, and of what the draft gives.
-/

/-- The section with so many bytes ends by this place, unless it has none. -/
def Section.EndsBy (limit size : Nat) (part : Section) : Prop :=
  0 < size → part.offset.toNat + size ≤ limit

/-- Nothing that has been written is taken back. -/
def Draft.Grows (draft : Draft α) : Prop :=
  ∀ written, written.length ≤ (draft written).2.length

namespace Draft.Grows

theorem pure (value : α) : Grows (pure value) :=
  fun _ => Nat.le_refl _

theorem place (count : Nat) (part : List UInt8) : Grows (place count part) :=
  fun _ => Nat.le_add_right _ _

theorem bind {first : Draft α} {next : α → Draft β} (grows : Grows first)
    (goesOn : ∀ value, Grows (next value)) : Grows (first >>= next) :=
  fun written => Nat.le_trans (grows written) (goesOn _ _)

theorem mapM {draft : α → Draft β} (grows : ∀ entry, Grows (draft entry)) (entries : List α) :
    Grows (entries.mapM draft) := by
  induction entries with
  | nil => exact pure []
  | cons entry rest ih =>
    rw [List.mapM_cons]
    exact bind (grows entry) fun _ => bind ih fun _ => pure _

end Draft.Grows

theorem ProcedureImage.draft_grows (image : ProcedureImage) : Draft.Grows image.draft := by
  rw [draft]
  iterate 7
    apply Draft.Grows.bind (.place _ _)
    intro _
  exact Draft.Grows.pure _

theorem Draft.length_mapM (draft : α → Draft β) (entries : List α) (written : Written) :
    (entries.mapM draft written).1.length = entries.length := by
  induction entries generalizing written with
  | nil => rfl
  | cons entry rest ih =>
    rw [List.mapM_cons]
    exact congrArg (· + 1) (ih (draft entry written).2)

/-- If what the draft gives has this property, then what it writes ends by the limit. -/
structure Draft.EndsBy (limit : Nat) (draft : Draft α) (property : α → Prop) : Prop where
  grows : Grows draft
  ends : ∀ written, Header.size + (draft written).2.length ≤ largestModule →
    Header.size + written.length ≤ limit → property (draft written).1 →
      Header.size + (draft written).2.length ≤ limit

namespace Draft.EndsBy

variable {limit : Nat}

theorem pure (value : α) (property : α → Prop) : EndsBy limit (pure value) property where
  grows := Grows.pure value
  ends _ _ begins _ := begins

/-- What is given in the end has to tell enough of what was given first. -/
theorem bind {first : Draft α} {next : α → Draft β} {found : α → Prop} {property : β → Prop}
    (ends : EndsBy limit first found) (goesOn : ∀ value, EndsBy limit (next value) property)
    (tells : ∀ value written, property (next value written).1 → found value) :
    EndsBy limit (first >>= next) property where
  grows := ends.grows.bind fun value => (goesOn value).grows
  ends := by
    intro written small begins holds
    have later := (goesOn (first written).1).grows (first written).2
    have smaller : Header.size + (first written).2.length ≤ largestModule :=
      Nat.le_trans (Nat.add_le_add_left later _) small
    apply (goesOn (first written).1).ends (first written).2 small _ holds
    exact ends.ends written smaller begins (tells _ _ holds)

/-- A section that has bytes ends where the writing has come to. -/
theorem of_place {written : Written} {count size : Nat} {part : List UInt8}
    (length : part.length = size)
    (small : Header.size + (Draft.place count part written).2.length ≤ largestModule)
    (filled : 0 < size) (holds : (Draft.place count part written).1.EndsBy limit size) :
    Header.size + (Draft.place count part written).2.length ≤ limit := by
  have total : (Draft.place count part written).2.length = written.length + part.length := rfl
  have offset : (Draft.place count part written).1.offset.toNat = Header.size + written.length :=
    toNat_storedCount (by omega)
  have here := holds filled
  omega

theorem place {count size : Nat} {part : List UInt8} (length : part.length = size) :
    EndsBy limit (place count part) (Section.EndsBy limit size) where
  grows := Grows.place count part
  ends := by
    intro written small begins holds
    cases size with
    | zero =>
      have total : (Draft.place count part written).2.length = written.length + part.length := rfl
      omega
    | succ size => exact of_place length small (Nat.succ_pos size) holds

/-- Parts that are written in front of a section play no part if they are written only when the
section has bytes. -/
theorem behind {draft : α → Draft β} {entries : List α} {count : List β → Nat}
    {part : List β → List UInt8} {size : Nat} (grows : ∀ entry, Grows (draft entry))
    (length : ∀ values : List β, values.length = entries.length → (part values).length = size)
    (only : size = 0 → entries = []) :
    EndsBy limit (entries.mapM draft >>= fun values => Draft.place (count values) (part values))
      (Section.EndsBy limit size) where
  grows := (Grows.mapM grows entries).bind fun values => Grows.place (count values) (part values)
  ends := by
    intro written small begins holds
    have placed := length (entries.mapM draft written).1 (length_mapM draft entries written)
    cases size with
    | zero =>
      have none := only rfl
      subst none
      exact (place placed).ends written small begins holds
    | succ size => exact of_place placed small (Nat.succ_pos size) holds

theorem bind_behind {draft : α → Draft β} {entries : List α} {count : List β → Nat}
    {part : List β → List UInt8} {size : Nat} {next : Section → Draft γ} {property : γ → Prop}
    (grows : ∀ entry, Grows (draft entry))
    (length : ∀ values : List β, values.length = entries.length → (part values).length = size)
    (only : size = 0 → entries = []) (goesOn : ∀ placed, EndsBy limit (next placed) property)
    (tells : ∀ placed written, property (next placed written).1 → placed.EndsBy limit size) :
    EndsBy limit
      (entries.mapM draft >>= fun values =>
        Draft.place (count values) (part values) >>= next) property := by
  rw [← bind_assoc]
  exact (behind grows length only).bind goesOn tells

theorem bytes (data : List UInt8) :
    EndsBy limit (Draft.bytes data) (Section.EndsBy limit data.length) :=
  place rfl

theorem words (values : List UInt32) :
    EndsBy limit (Draft.words values) (Section.EndsBy limit (values.length * 4)) :=
  place (length_storedWords values)

theorem records {format : Record α} {encode : α → List UInt8} {entries : List α}
    (length : ∀ entry, (encode entry).length = format.size) :
    EndsBy limit (Draft.table encode entries)
      (Section.EndsBy limit (entries.length * format.size)) :=
  place (length_flatMap_of_length length entries)

end Draft.EndsBy

namespace Image

def filesSize (image : Image) : Nat :=
  ((image.files.map (·.1)).map fun name => 12 + (zeroEnded name).length).sum

/-- All sections that the header names end by this place. -/
structure EndsBy (image : Image) (limit : Nat) (header : Header) : Prop where
  ids : header.ids.EndsBy limit (image.ids.length * IdTable.format.size)
  strings : header.strings.EndsBy limit ((stringStarts 0 image.strings).length * 4)
  text : header.text.EndsBy limit (image.strings.flatMap zeroEnded).length
  files : header.files.EndsBy limit image.filesSize
  imports : header.imports.EndsBy limit (image.imports.length * 4)
  globalData : header.globalData.EndsBy limit image.globalData.length
  globalVars : header.globalVars.EndsBy limit (image.globalVars.length * Variable.format.size)
  localData : header.localData.EndsBy limit image.localData.length
  localVars : header.localVars.EndsBy limit (image.localVars.length * Variable.format.size)
  localStrings : header.localStrings.EndsBy limit (image.localStrings.length * 4)
  spaces : header.spaces.EndsBy limit (image.spaces.length * VariableSpace.entryFormat.size)
  sourceFiles : header.sourceFiles.EndsBy limit (image.sourceFiles.flatMap pathEntry).length
  systemCalls : header.systemCalls.EndsBy limit (image.systemCalls.flatMap SystemCall.encode).length
  procedures : header.procedures.EndsBy limit
    (image.procedures.length * ProcedureShape.format.size)

/-- The names alone say how long the table of files is. -/
theorem length_fileEntries {names : List String} {sections : List Section}
    (same : sections.length = names.length) :
    ((names.zip sections).flatMap fileEntry).length =
      (names.map fun name => 12 + (zeroEnded name).length).sum := by
  induction names generalizing sections with
  | nil => rfl
  | cons name rest ih =>
    cases sections with
    | nil => cases same
    | cons part others =>
      have entry : (fileEntry (name, part)).length = 12 + (zeroEnded name).length := by
        rw [fileEntry, EmbeddedFile.encodeEntry, List.append_assoc, List.length_append,
          length_storedWords]
        rfl
      rw [List.zip_cons_cons, List.flatMap_cons, List.length_append, entry,
        ih (Nat.succ.inj same), List.map_cons, List.sum_cons]

theorem files_eq_nil {image : Image} (none : image.filesSize = 0) : image.files = [] := by
  rw [filesSize] at none
  cases files : image.files with
  | nil => rfl
  | cons file rest =>
    rw [files, List.map_cons, List.map_cons, List.sum_cons] at none
    omega

theorem draft_endsBy (image : Image) (limit : Nat) :
    Draft.EndsBy limit image.draft (image.EndsBy limit) := by
  rw [draft]
  apply Draft.EndsBy.bind (.records length_idEntry) _ fun _ _ ends => ends.ids
  intro ids
  apply Draft.EndsBy.bind (.words _) _ fun _ _ ends => ends.strings
  intro strings
  apply Draft.EndsBy.bind (.bytes _) _ fun _ _ ends => ends.text
  intro text
  refine Draft.EndsBy.bind_behind (fun file => .place _ _) ?_ ?_ ?_ fun _ _ ends => ends.files
  · intro contents same
    exact length_fileEntries (same.trans (List.length_map _).symm)
  · exact files_eq_nil
  intro files
  apply Draft.EndsBy.bind (.words _) _ fun _ _ ends => ends.imports
  intro imports
  apply Draft.EndsBy.bind (.bytes _) _ fun _ _ ends => ends.globalData
  intro globalData
  apply Draft.EndsBy.bind (.records fun record => (Variable.format_reads record).length) _
    fun _ _ ends => ends.globalVars
  intro globalVars
  apply Draft.EndsBy.bind (.bytes _) _ fun _ _ ends => ends.localData
  intro localData
  apply Draft.EndsBy.bind (.records fun record => (Variable.format_reads record).length) _
    fun _ _ ends => ends.localVars
  intro localVars
  apply Draft.EndsBy.bind (.words _) _ fun _ _ ends => ends.localStrings
  intro localStrings
  refine Draft.EndsBy.bind_behind (fun space => .place _ _) ?_ ?_ ?_ fun _ _ ends => ends.spaces
  · intro members same
    rw [length_flatMap_of_length fun part => (VariableSpace.entryFormat_reads part).length, same]
  · intro zero
    exact List.eq_nil_of_length_eq_zero ((Nat.mul_eq_zero.mp zero).resolve_right (by decide))
  intro spaces
  apply Draft.EndsBy.bind (.place rfl) _ fun _ _ ends => ends.sourceFiles
  intro sourceFiles
  apply Draft.EndsBy.bind (.place rfl) _ fun _ _ ends => ends.systemCalls
  intro systemCalls
  refine Draft.EndsBy.bind_behind ProcedureImage.draft_grows ?_ ?_ ?_
    fun _ _ ends => ends.procedures
  · intro shapes same
    rw [length_flatMap_of_length fun shape => (ProcedureShape.format_reads shape).length, same]
  · intro zero
    exact List.eq_nil_of_length_eq_zero ((Nat.mul_eq_zero.mp zero).resolve_right (by decide))
  intro procedures
  exact Draft.EndsBy.pure _ _

theorem length_encode (image : Image) :
    image.encode.length = Header.size + (image.draft .empty).2.length := by
  have size : image.encodeWithHeader.1.encode.length = Header.size :=
    (Header.format_reads _).length
  change (image.encodeWithHeader.1.encode ++ (image.draft .empty).2.bytes).length = _
  rw [List.length_append, size, Written.length_bytes]

/-- A module ends with the last of the sections that its header names. -/
theorem length_encode_le {image : Image} {limit : Nat} (small : image.encode.length ≤ largestModule)
    (header : Header.size ≤ limit) (ends : image.EndsBy limit image.encodeWithHeader.1) :
    image.encode.length ≤ limit := by
  rw [length_encode] at small ⊢
  exact (image.draft_endsBy limit).ends .empty small header ends

/-- The table of shapes is written last. -/
theorem draft_last (image : Image) (written : Written) :
    ∃ shapes before, shapes.length = image.procedures.length ∧
      (image.draft written).1.procedures = (Draft.table ProcedureShape.encode shapes before).1 ∧
      (image.draft written).2 = (Draft.table ProcedureShape.encode shapes before).2 := by
  refine ⟨_, _, ?_, rfl, rfl⟩
  exact Draft.length_mapM _ _ _

theorem procedures_end {image : Image} (small : image.encode.length ≤ largestModule) :
    image.encodeWithHeader.1.procedures.offset.toNat +
      image.procedures.length * ProcedureShape.format.size = image.encode.length := by
  rcases image.draft_last .empty with ⟨shapes, before, same, header, after⟩
  have table : (shapes.flatMap ProcedureShape.encode).length =
      image.procedures.length * ProcedureShape.format.size := by
    rw [length_flatMap_of_length fun shape => (ProcedureShape.format_reads shape).length, same]
  have total : (image.draft .empty).2.length =
      before.length + (shapes.flatMap ProcedureShape.encode).length := by
    rw [after]
    rfl
  rw [length_encode] at small ⊢
  have offset : image.encodeWithHeader.1.procedures.offset.toNat = Header.size + before.length := by
    change (image.draft .empty).1.procedures.offset.toNat = _
    rw [header]
    exact toNat_storedCount (by omega)
  omega

end Image

end CompiledModule
