import CompiledModule.Proofs.RoundTrip.Sections

namespace CompiledModule

/-!
# The procedures of an image, read again

A part of a procedure that is empty is not there when the procedure is read again, and every other
part comes back as it was.  Code is written in words and counted in bytes, so its count is always a
whole number of words.  A procedure without code keeps the offsets of its handlers in the module,
but has no handlers.

Without a pass over the blocks, the procedures do not depend on each other.  They come back in their
order, numbered from 0, each named by the table of names.
-/

def loadedPart (part : List α) : Option (List α) :=
  if part = [] then none else some part

/-- What a module that is written from the image has as procedure number `index`. -/
def ProcedureImage.procedure (ids : IdTable) (index : Nat) (image : ProcedureImage) :
    Procedure where
  index
  id := image.id
  name := ids.nameFor image.id
  flags := ⟨image.flags⟩
  params := image.params
  sentenceCount := 0
  privateData := loadedPart image.privateData
  publicData := loadedPart image.publicData
  code := loadedPart image.code
  privateStrings := image.privateStrings
  publicStrings := image.publicStrings
  privateVars := image.privateVars
  publicVars := image.publicVars
  exitAt := if image.code = [] ∨ image.exitAt = 0 then none else some image.exitAt
  errorAt := if image.code = [] ∨ image.errorAt = 0 then none else some image.errorAt

/-! ## Parts that may be absent -/

namespace Section.Holds

variable {contents bytes : List UInt8} {base : Nat} {part : Section} {phase : Phase}

theorem comes_part? {body : Section → Load (List α)} {values : List α}
    (counts : part.count = 0 ↔ values = [])
    (comes : Load.ComesTo contents base phase phase (body part) (.ok values)) :
    Load.ComesTo contents base phase phase (part.part? body) (.ok (loadedPart values)) := by
  unfold Section.part? loadedPart
  by_cases none : part.count = 0
  · have empty := counts.mp none
    subst empty
    rw [if_pos none]
    exact Load.ComesTo.pure _
  · have filled : values ≠ [] := fun empty => none (counts.mpr empty)
    rw [if_neg none, if_neg filled]
    exact comes.map some

theorem counts_iff {count : Nat} (holds : part.Holds contents base count bytes) :
    part.count = 0 ↔ count = 0 := by
  rw [← holds.count, ← UInt32.toNat_inj]
  rfl

variable [Memory] [Memory.Ample]

theorem comes_data (holds : part.Holds contents base bytes.length bytes) :
    Load.ComesTo contents base phase phase (part.part? Section.bytes) (.ok (loadedPart bytes)) := by
  apply comes_part?
  · rw [holds.counts_iff, List.length_eq_zero_iff]
  · exact holds.comes_bytes

/-- The count of the code is divided again by the size of a word. -/
theorem comes_code {code : List UInt32}
    (holds : part.Holds contents base (code.length * 4) (storedWords code)) (index : Nat) :
    Load.ComesTo contents base phase phase (Procedure.readCode index part)
      (.ok (loadedPart code)) := by
  have whole : part.count % 4 = 0 := by
    rw [← UInt32.toNat_inj, UInt32.toNat_mod, holds.count]
    exact Nat.mul_mod_left _ _
  have quarter : (⟨part.offset, part.count / 4⟩ : Section).Holds contents base code.length
      (storedWords code) := by
    constructor
    · change (part.count / 4).toNat = code.length
      rw [UInt32.toNat_div, holds.count]
      exact Nat.mul_div_cancel _ (by decide)
    · exact holds.stands
  have words : Load.ComesTo contents base phase phase
      (part.part? fun code => Section.words ⟨code.offset, code.count / 4⟩)
      (.ok (loadedPart code)) := by
    apply comes_part?
    · rw [holds.counts_iff, ← List.length_eq_zero_iff]
      omega
    · exact quarter.comes_words
  unfold Procedure.readCode
  simp only [if_pos whole]
  exact words

end Section.Holds

/-! ## Procedures -/

namespace ProcedureImage

def parts (image : ProcedureImage) : ProcedureParts where
  privateData := loadedPart image.privateData
  publicData := loadedPart image.publicData
  code := loadedPart image.code
  privateStrings := image.privateStrings
  publicStrings := image.publicStrings
  privateVars := image.privateVars
  publicVars := image.publicVars

variable {contents : List UInt8} {image : ProcedureImage} {shape : ProcedureShape}

theorem map_loadedPart (part : List α) :
    ((loadedPart part).map fun _ => (loadedPart part).getD []) = loadedPart part := by
  unfold loadedPart
  split <;> rfl

theorem isNone_loadedPart (part : List α) : (loadedPart part).isNone ↔ part = [] := by
  unfold loadedPart
  split
  · rename_i empty
    exact iff_of_true rfl empty
  · rename_i filled
    exact iff_of_false Bool.false_ne_true filled

theorem LaidOut.assemble_eq (laidOut : image.LaidOut contents shape) (ids : IdTable)
    (index : Nat) :
    Procedure.assemble ids index shape image.parts (image.parts.privateData.getD [])
      (image.parts.publicData.getD []) = image.procedure ids index := by
  unfold Procedure.assemble ProcedureImage.procedure ProcedureImage.parts
  simp only [map_loadedPart, isNone_loadedPart, laidOut.id, laidOut.flags, laidOut.params,
    laidOut.sentences, laidOut.exitAt, laidOut.errorAt]

variable [Memory] [Memory.Ample]

theorem LaidOut.readApart_eq (laidOut : image.LaidOut contents shape) (index : Nat) :
    ProcedureParts.readApart contents 0 index shape = .ok image.parts := by
  have inModule : 0 ≤ contents.length := Nat.zero_le _
  unfold ProcedureParts.readApart
  rw [laidOut.privateData.comes_data.alone_eq inModule,
    laidOut.publicData.comes_data.alone_eq inModule,
    (laidOut.code.comes_code index).alone_eq inModule,
    laidOut.privateStrings.comes_words.alone_eq inModule,
    laidOut.publicStrings.comes_words.alone_eq inModule,
    laidOut.privateVars.comes_variables.alone_eq inModule,
    laidOut.publicVars.comes_variables.alone_eq inModule]
  rfl

theorem LaidOut.loadApart_eq (laidOut : image.LaidOut contents shape)
    (spaces : List VariableSpace) (ids : IdTable) (sizes : SizeCache) (index : Nat) :
    Procedure.loadApart contents 0 spaces ids .skip sizes index shape =
      .ok (image.procedure ids index, sizes) := by
  unfold Procedure.loadApart
  rw [laidOut.readApart_eq index]
  change Except.ok (Procedure.assemble ids index shape image.parts _ _, sizes) = _
  rw [laidOut.assemble_eq ids index]

/-- The induction is on the images and their shapes side by side. -/
theorem loadAllApart_eq {images : List ProcedureImage} {shapes : List ProcedureShape}
    (laidOut : List.Forall₂ (fun image shape => image.LaidOut contents shape) images shapes)
    (spaces : List VariableSpace) (ids : IdTable) (sizes : SizeCache) (first : Nat) :
    Procedure.loadAllApart contents 0 spaces ids .skip sizes first shapes =
      .ok (images.mapIdx fun index image => image.procedure ids (first + index)) := by
  induction laidOut generalizing first with
  | nil => rfl
  | cons here _ ih =>
    unfold Procedure.loadAllApart
    rw [here.loadApart_eq spaces ids sizes first]
    change (Procedure.loadAllApart _ _ _ _ _ _ _ _ >>= fun procedures =>
      Except.ok (_ :: procedures)) = _
    rw [ih (first + 1), List.mapIdx_cons]
    simp only [Nat.add_right_comm, Nat.add_assoc]
    rfl

theorem loadTableApart_eq {images : List ProcedureImage} {shapes : List ProcedureShape}
    (laidOut : List.Forall₂ (fun image shape => image.LaidOut contents shape) images shapes)
    (counted : shapes.length < 2 ^ 32) (spaces : List VariableSpace) (ids : IdTable)
    (sizes : SizeCache) :
    Procedure.loadTableApart contents 0 spaces ids .skip sizes shapes =
      .ok (images.mapIdx (ProcedureImage.procedure ids)) := by
  have numbered := loadAllApart_eq laidOut spaces ids sizes 0
  simp only [Nat.zero_add] at numbered
  have room :
      Load.alone contents 0 .procedures (Load.allocate .procedure shapes.length) = .ok () := by
    rw [Load.allocate_counted .procedure counted]
    exact (Load.ComesTo.pure ()).alone_eq (Nat.zero_le _)
  rw [Procedure.loadTableApart, room]
  exact numbered

end ProcedureImage

end CompiledModule
