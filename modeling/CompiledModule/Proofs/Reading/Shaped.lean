import CompiledModule.Proofs.Lookup.FirstPosition
import CompiledModule.Proofs.Reading.Apart
import Mathlib.Data.List.Basic

namespace CompiledModule

/-!
# Procedures as their shapes say

A shape gives seven places in a module and how much stands at each of them.  What a procedure has
can be cut out of the module there without reading anything: a block of data is a slice of the
bytes, code and indexes are slices taken word by word, and a table of variables is a slice taken
record by record.

Reading does the same when every slice lies inside the module.  Otherwise it ends with the first
fault in a fixed order, in which the code is asked for whole words before it is looked for, and the
two blocks of data are laid out when everything else has been read.  Where the reader stood before
makes no difference to any of this.
-/

variable {ε α β : Type}

/-! ## Checks in order -/

/-- The result, if none of the checks before it has found a fault, and otherwise the first fault. -/
def passing : (checks : List (Option ε)) → Except ε α → Except ε α
  | [], result => result
  | none :: rest, result => passing rest result
  | some fault :: _, _ => .error fault

def errorOf? : Except ε α → Option ε
  | .ok _ => none
  | .error error => some error

/-- Either no check has found a fault, or there is a first fault. -/
theorem passing_cases (checks : List (Option ε)) :
    ((∀ check ∈ checks, check = none) ∧
        ∀ {α : Type} (result : Except ε α), passing checks result = result) ∨
      ∃ fault passed, First checks (fun check => check.isSome = true) passed (some fault) ∧
        ∀ {α : Type} (result : Except ε α), passing checks result = .error fault := by
  induction checks with
  | nil => exact Or.inl ⟨fun _ impossible => absurd impossible List.not_mem_nil, fun _ => rfl⟩
  | cons check rest ih =>
    cases check with
    | some fault =>
      refine Or.inr ⟨fault, [], ⟨⟨rest, rfl⟩, rfl, ?_⟩, fun _ => rfl⟩
      exact fun _ impossible => absurd impossible List.not_mem_nil
    | none =>
      rcases ih with ⟨clean, same⟩ | ⟨fault, passed, first, ends⟩
      · exact Or.inl ⟨List.forall_mem_cons.mpr ⟨rfl, clean⟩, same⟩
      · rcases first.split with ⟨behind, split⟩
        refine Or.inr ⟨fault, none :: passed, ⟨⟨behind, congrArg _ split⟩, rfl, ?_⟩, ends⟩
        exact List.forall_mem_cons.mpr ⟨Bool.false_ne_true, first.passed_none⟩

theorem passing_append (checks more : List (Option ε)) (result : Except ε α) :
    passing (checks ++ more) result = passing checks (passing more result) := by
  induction checks with
  | nil => rfl
  | cons check rest ih =>
    cases check with
    | none => exact ih
    | some fault => rfl

theorem passing_eq_ok {checks : List (Option ε)} {result : Except ε α} {value : α} :
    passing checks result = .ok value ↔ (∀ check ∈ checks, check = none) ∧ result = .ok value := by
  rcases passing_cases checks with ⟨clean, same⟩ | ⟨fault, passed, first, ends⟩
  · rw [same, and_iff_right clean]
  · rcases first.split with ⟨behind, split⟩
    have found : some fault ∈ checks := by
      rw [split]
      exact List.mem_append_right passed List.mem_cons_self
    rw [ends]
    constructor
    · intro impossible
      cases impossible
    · intro both
      cases both.1 (some fault) found

/-- Two scans that stop find the same. -/
theorem First.unique {entries : List α} {has : α → Prop} {passed passed' : List α} {entry entry' : α}
    (first : First entries has passed entry) (second : First entries has passed' entry') :
    entry = entry' := by
  classical
  have found := exists_first_iff.mp ⟨passed, first⟩
  rw [exists_first_iff.mp ⟨passed', second⟩] at found
  exact (Option.some.inj found).symm

/-- The first fault is the error, and the error of the result is the fault that is found last. -/
theorem passing_eq_error {checks : List (Option ε)} {result : Except ε α} {error : ε} :
    passing checks result = .error error ↔
      ∃ passed, First (checks ++ [errorOf? result]) (fun check => check.isSome = true) passed
        (some error) := by
  have ended : passing (checks ++ [errorOf? result]) result = passing checks result := by
    rw [passing_append]
    cases result <;> rfl
  rw [← ended]
  rcases passing_cases (checks ++ [errorOf? result]) with
    ⟨clean, same⟩ | ⟨fault, passed, first, ends⟩
  · rw [same]
    constructor
    · intro failed
      have reported := clean (errorOf? result) (List.mem_append_right checks List.mem_cons_self)
      rw [failed] at reported
      cases reported
    · intro found
      rcases found with ⟨passed, first⟩
      rcases first.split with ⟨behind, split⟩
      have impossible := clean (some error) (by
        rw [split]
        exact List.mem_append_right passed List.mem_cons_self)
      cases impossible
  · rw [ends]
    constructor
    · intro same
      cases same
      exact ⟨passed, first⟩
    · intro found
      rcases found with ⟨passed', second⟩
      cases first.unique second
      rfl

/-- An error of a result that others build on may be looked for among the checks. -/
theorem passing_errorOf? (checks : List (Option ε)) (first : Except ε α)
    (next : α → Except ε β) :
    passing (checks ++ [errorOf? first]) (first >>= next) = passing checks (first >>= next) := by
  rw [passing_append]
  cases first <;> rfl

theorem errorOf?_bind_pure (result : Except ε α) (function : α → β) :
    errorOf? (result >>= fun value => pure (function value)) = errorOf? result := by
  cases result <;> rfl

theorem errorOf?_bind_congr {γ : Type} (first : Except ε α) {next : α → Except ε β}
    {next' : α → Except ε γ} (same : ∀ value, errorOf? (next value) = errorOf? (next' value)) :
    errorOf? (first >>= next) = errorOf? (first >>= next') := by
  cases first with
  | error _ => rfl
  | ok value => exact same value

/-! ## Slices -/

namespace Section

/-- The bytes of the section's entries, each of which has `size` bytes. -/
def slice (contents : List UInt8) (base size : Nat) (part : Section) : List UInt8 :=
  Load.bytesAt contents base part.offset.toNat (part.count.toNat * size)

/-- The section has no entries, or all of them lie inside the module. -/
def Fits (available size : Nat) (part : Section) : Prop :=
  part.count = 0 ∨ part.offset.toNat + part.count.toNat * size ≤ available

/-- Why the entries of a section cannot be had from a module of so many bytes: the section begins
behind the module, or it ends there. -/
def fault? (available : Nat) (phase : Phase) (size : Nat) (part : Section) : Option LoadError :=
  if part.count = 0 then none
  else if available < part.offset.toNat then
    some (.io phase (.seekOutside (.start part.offset) available))
  else if available < part.offset.toNat + part.count.toNat * size then
    some (.truncated phase part.offset.toNat (part.count.toNat * size) available)
  else none

def present? (part : Section) (value : α) : Option α :=
  if part.count = 0 then none else some value

theorem fault?_eq_none {available size : Nat} {phase : Phase} {part : Section} :
    part.fault? available phase size = none ↔ part.Fits available size := by
  unfold fault? Fits
  split
  · rename_i empty
    simp only [empty, true_or]
  · rename_i filled
    split
    · simp only [reduceCtorEq, filled, false_or, false_iff]
      omega
    · split
      · simp only [reduceCtorEq, filled, false_or, false_iff]
        omega
      · simp only [filled, false_or, true_iff]
        omega

end Section

/-- The first `count` records of a run of bytes, as far as they are whole. -/
def Record.split (format : Record α) : (count : Nat) → List UInt8 → List α
  | 0, _ => []
  | count + 1, bytes =>
    if whole : (bytes.take format.size).length = format.size then
      format.decode ⟨bytes.take format.size, whole⟩ :: split format count (bytes.drop format.size)
    else []

/-! ## Reading slices -/

namespace Load

variable {contents : List UInt8} {base : Nat} {phase first middle last : Phase}

theorem bytes_slice [Memory] {count : Nat} (granted : Memory.grants count = true)
    (position : Nat) :
    bytes count (.over contents base phase position) =
      if position + count ≤ contents.length - base then
        .ok (bytesAt contents base position count) (.over contents base phase (position + count))
      else
        .error (.truncated phase position count (contents.length - base))
          (.over contents base phase position) := by
  unfold bytes
  by_cases fits : position + count ≤ contents.length - base
  · rw [run_bind_of_ok (ensure_inside fits), if_pos fits, allocate_bytes granted]
    exact run_bind_of_ok (fixed_inside fits)
  · rw [run_bind_of_error (ensure_short fits), if_neg fits]

theorem words_slice [Memory] {count : Nat} (granted : Memory.grants (count * 4) = true)
    (position : Nat) :
    words count (.over contents base phase position) =
      if position + count * 4 ≤ contents.length - base then
        .ok (splitWords count (bytesAt contents base position (count * 4)))
          (.over contents base phase (position + count * 4))
      else
        .error (.truncated phase position (count * 4) (contents.length - base))
          (.over contents base phase position) := by
  have read : bytes (count * 4) (.over contents base phase position) = _ :=
    bytes_slice granted position
  rw [words_eq (lt_sizeLimit_of_grants granted)]
  by_cases fits : position + count * 4 ≤ contents.length - base
  · rw [if_pos fits] at read ⊢
    exact run_bind_of_ok read
  · rw [if_neg fits] at read ⊢
    exact run_bind_of_error read

/-- The induction is on the records; behind the first one the slice begins anew. -/
theorem times_record_slice (format : Record α) {count position : Nat}
    (fits : position + count * format.size ≤ contents.length - base) :
    times (record format) count (.over contents base phase position) =
      .ok (format.split count (bytesAt contents base position (count * format.size)))
        (.over contents base phase (position + count * format.size)) := by
  induction count generalizing position with
  | zero => simp only [Nat.zero_mul, Nat.add_zero, times, Record.split]; rfl
  | succ count ih =>
    have total : (count + 1) * format.size = format.size + count * format.size := by
      rw [Nat.succ_mul, Nat.add_comm]
    rw [total] at fits ⊢
    have here : position + format.size ≤ contents.length - base := by omega
    have firstBytes : (bytesAt contents base position (format.size + count * format.size)).take
        format.size = bytesAt contents base position format.size := by
      rw [bytesAt, List.take_take, Nat.min_eq_left (Nat.le_add_right _ _), bytesAt]
    have otherBytes : (bytesAt contents base position (format.size + count * format.size)).drop
        format.size = bytesAt contents base (position + format.size) (count * format.size) := by
      rw [bytesAt, List.drop_take, Nat.add_sub_cancel_left, List.drop_drop, bytesAt, Nat.add_assoc]
    have whole := length_bytesAt here
    have others : position + format.size + count * format.size ≤ contents.length - base := by omega
    rw [times, run_bind_of_ok (record_inside here), run_bind_of_ok (ih others), Record.split, otherBytes, Nat.add_assoc]
    simp only [firstBytes, dif_pos whole]
    rfl

theorem reserve_times_slice [Memory] [Memory.Ample] (cell : Cell) (format : Record α)
    {count : Nat} (counted : count < 0x100000000) (small : format.size ≤ 56) (position : Nat) :
    (reserveFor cell count format.size >>= fun _ => times (record format) count)
        (.over contents base phase position) =
      if position + count * format.size ≤ contents.length - base then
        .ok (format.split count (bytesAt contents base position (count * format.size)))
          (.over contents base phase (position + count * format.size))
      else
        .error (.truncated phase position (count * format.size) (contents.length - base))
          (.over contents base phase position) := by
  have total : count * format.size < sizeLimit := by
    have product := Nat.mul_le_mul (Nat.le_of_lt counted) small
    unfold sizeLimit
    omega
  rw [reserveFor_counted cell counted, reserve, saturated_of_lt total]
  by_cases fits : position + count * format.size ≤ contents.length - base
  · rw [if_pos fits, ← times_record_slice format fits]
    exact run_bind_of_ok (ensure_inside fits)
  · rw [if_neg fits]
    exact run_bind_of_error (ensure_short fits)

/-! ## What a section comes to -/

namespace ComesTo

/-- What comes to a value behind some checks may be followed by what has checks of its own. -/
theorem passing_bind {action : Load α} {next : α → Load β} {checks : List (Option LoadError)}
    {value : α} {result : Except LoadError β}
    (comes : ComesTo contents base first middle action (passing checks (.ok value)))
    (goesOn : ComesTo contents base middle last (next value) result) :
    ComesTo contents base first last (action >>= next) (passing checks result) := by
  rcases passing_cases checks with ⟨_, same⟩ | ⟨fault, _, _, ends⟩
  · rw [same] at comes ⊢
    exact comes.bind_ok goesOn
  · rw [ends] at comes ⊢
    intro reader inside
    rcases outcomeOf_eq_error.mp (comes reader inside).1 with ⟨after, ran⟩
    rw [run_bind_of_error ran]
    refine ⟨rfl, ?_⟩
    intro _ _ impossible
    cases impossible

theorem entries (part : Section) {body : Nat → Load (List α)} {size : Nat}
    (cut : List UInt8 → List α)
    (reads : ∀ position, body part.count.toNat (.over contents base phase position) =
      if position + part.count.toNat * size ≤ contents.length - base then
        .ok (cut (bytesAt contents base position (part.count.toNat * size)))
          (.over contents base phase (position + part.count.toNat * size))
      else
        .error (.truncated phase position (part.count.toNat * size) (contents.length - base))
          (.over contents base phase position))
    (empty : part.count = 0 → cut (part.slice contents base size) = []) :
    ComesTo contents base phase phase (part.entries body)
      (passing [part.fault? (contents.length - base) phase size]
        (.ok (cut (part.slice contents base size)))) := by
  unfold Section.entries Section.fault?
  by_cases none : part.count = 0
  · rw [if_pos none, if_pos none, empty none]
    exact ComesTo.pure []
  rw [if_neg none, if_neg none]
  rintro _ ⟨position, inside, rfl⟩
  by_cases there : part.offset.toNat ≤ contents.length - base
  · rw [run_bind_of_ok (seek_inside there), reads, if_neg (Nat.not_lt.mpr there)]
    by_cases fits : part.offset.toNat + part.count.toNat * size ≤ contents.length - base
    · rw [if_pos fits, if_neg (Nat.not_lt.mpr fits)]
      refine ⟨rfl, ?_⟩
      intro _ left ended
      cases ended
      exact ⟨_, fits, rfl⟩
    · rw [if_neg fits, if_pos (Nat.lt_of_not_le fits)]
      refine ⟨rfl, ?_⟩
      intro _ _ impossible
      cases impossible
  · rw [run_bind_of_error (seek_outside there), if_pos (Nat.lt_of_not_le there)]
    refine ⟨rfl, ?_⟩
    intro _ _ impossible
    cases impossible

/-- A part that is absent when its section is empty. -/
theorem part? (part : Section) {body : Section → Load α} {size : Nat} {value : α}
    (comes : ComesTo contents base phase phase (body part)
      (passing [part.fault? (contents.length - base) phase size] (.ok value))) :
    ComesTo contents base phase phase (part.part? body)
      (passing [part.fault? (contents.length - base) phase size] (.ok (part.present? value))) := by
  unfold Section.part? Section.present?
  by_cases none : part.count = 0
  · rw [if_pos none, if_pos none, Section.fault?, if_pos none]
    exact ComesTo.pure _
  · rw [if_neg none, if_neg none]
    exact comes.passing_bind (ComesTo.pure (some value))

variable [Memory] [Memory.Ample]

theorem bytes (part : Section) :
    ComesTo contents base phase phase part.bytes
      (passing [part.fault? (contents.length - base) phase 1]
        (.ok (part.slice contents base 1))) := by
  apply ComesTo.entries part id
  · intro position
    rw [Nat.mul_one]
    exact bytes_slice (Memory.grants_bytes part.count.toNat_lt) position
  · intro none
    rw [id, Section.slice, none]
    rfl

theorem words (part : Section) :
    ComesTo contents base phase phase part.words
      (passing [part.fault? (contents.length - base) phase 4]
        (.ok (splitWords part.count.toNat (part.slice contents base 4)))) := by
  apply ComesTo.entries part (splitWords part.count.toNat)
  · exact words_slice (Memory.grants_words part.count.toNat_lt)
  · intro none
    rw [none]
    rfl

theorem records (part : Section) (cell : Cell) {format : Record α} (small : format.size ≤ 56) :
    ComesTo contents base phase phase (part.records cell format)
      (passing [part.fault? (contents.length - base) phase format.size]
        (.ok (format.split part.count.toNat (part.slice contents base format.size)))) := by
  unfold Section.records Section.table
  apply ComesTo.entries part (format.split part.count.toNat)
  · exact reserve_times_slice cell format part.count.toNat_lt small
  · intro none
    rw [none]
    rfl

end ComesTo

end Load

/-! ## The shape of a procedure -/

/-- What a procedure has, cut out of the module where its shape says. -/
def ProcedureParts.cut (contents : List UInt8) (base : Nat) (shape : ProcedureShape) :
    ProcedureParts where
  privateData := shape.privateData.present? (shape.privateData.slice contents base 1)
  publicData := shape.publicData.present? (shape.publicData.slice contents base 1)
  code := shape.code.present?
    (splitWords (shape.code.count.toNat / 4) (shape.code.slice contents base 1))
  privateStrings :=
    splitWords shape.privateStrings.count.toNat (shape.privateStrings.slice contents base 4)
  publicStrings :=
    splitWords shape.publicStrings.count.toNat (shape.publicStrings.slice contents base 4)
  privateVars :=
    Variable.format.split shape.privateVars.count.toNat (shape.privateVars.slice contents base 56)
  publicVars :=
    Variable.format.split shape.publicVars.count.toNat (shape.publicVars.slice contents base 56)

namespace ProcedureShape

structure Fits (available : Nat) (shape : ProcedureShape) : Prop where
  privateData : shape.privateData.Fits available 1
  publicData : shape.publicData.Fits available 1
  code : shape.code.Fits available 1
  privateStrings : shape.privateStrings.Fits available 4
  publicStrings : shape.publicStrings.Fits available 4
  privateVars : shape.privateVars.Fits available 56
  publicVars : shape.publicVars.Fits available 56

/-- The code of procedure number `index` is no whole number of words. -/
def raggedCode? (phase : Phase) (index : Nat) (shape : ProcedureShape) : Option LoadError :=
  if shape.code.count % 4 = 0 then none
  else some (.malformed phase (.raggedCode index shape.code.count))

/-- What can be wrong with a shape, in the order in which it is found. -/
def faults (available : Nat) (phase : Phase) (index : Nat) (shape : ProcedureShape) :
    List (Option LoadError) :=
  [shape.privateData.fault? available phase 1,
    shape.publicData.fault? available phase 1,
    shape.raggedCode? phase index,
    shape.code.fault? available phase 1,
    shape.privateStrings.fault? available phase 4,
    shape.publicStrings.fault? available phase 4,
    shape.privateVars.fault? available phase 56,
    shape.publicVars.fault? available phase 56]

theorem raggedCode?_eq_none {phase : Phase} {index : Nat} {shape : ProcedureShape} :
    shape.raggedCode? phase index = none ↔ shape.code.count % 4 = 0 := by
  unfold raggedCode?
  split
  · simp only [*]
  · simp only [reduceCtorEq, *]

theorem faults_eq_none {available : Nat} {phase : Phase} {index : Nat} {shape : ProcedureShape} :
    (∀ fault ∈ shape.faults available phase index, fault = none) ↔
      shape.code.count % 4 = 0 ∧ shape.Fits available := by
  simp only [faults, List.forall_mem_cons, Section.fault?_eq_none, raggedCode?_eq_none]
  constructor
  · rintro ⟨privateData, publicData, whole, code, privateStrings, publicStrings, privateVars,
      publicVars, -⟩
    exact ⟨whole, privateData, publicData, code, privateStrings, publicStrings, privateVars,
      publicVars⟩
  · rintro ⟨whole, fits⟩
    exact ⟨fits.privateData, fits.publicData, whole, fits.code, fits.privateStrings,
      fits.publicStrings, fits.privateVars, fits.publicVars, fun _ impossible =>
        absurd impossible List.not_mem_nil⟩

end ProcedureShape

namespace Procedure

section Cut

variable [Memory] [Memory.Ample] {contents : List UInt8} {base : Nat} {phase : Phase}

/-- Code is read as words, of which there are as many as its bytes make. -/
theorem readCode_comesTo (index : Nat) (shape : ProcedureShape) :
    Load.ComesTo contents base phase phase (readCode index shape.code)
      (passing
        [shape.raggedCode? phase index, shape.code.fault? (contents.length - base) phase 1]
        (.ok (ProcedureParts.cut contents base shape).code)) := by
  unfold readCode ProcedureShape.raggedCode? ProcedureParts.cut
  by_cases whole : shape.code.count % 4 = 0
  · simp only [if_pos whole]
    have count : (shape.code.count / 4).toNat = shape.code.count.toNat / 4 :=
      UInt32.toNat_div _ _
    have rest : shape.code.count.toNat % 4 = 0 := by
      have same := congrArg UInt32.toNat whole
      rwa [UInt32.toNat_mod] at same
    have words : shape.code.count.toNat / 4 * 4 = shape.code.count.toNat * 1 := by
      omega
    have filled : shape.code.count / 4 = 0 ↔ shape.code.count = 0 := by
      rw [← UInt32.toNat_inj, ← UInt32.toNat_inj, count, UInt32.toNat_zero]
      omega
    have read : Load.ComesTo contents base phase phase
        (Section.words ⟨shape.code.offset, shape.code.count / 4⟩) _ := Load.ComesTo.words _
    simp only [Section.fault?, Section.slice, count, words, filled] at read
    exact Load.ComesTo.part? shape.code read
  · simp only [if_neg whole]
    apply Load.ComesTo.get_bind
    rintro reader rfl
    exact fun _ _ => ⟨rfl, nofun⟩

/-- The two blocks are laid out when everything has been read, and the procedure is put together
from what has become of them. -/
theorem load_comesTo_cut (spaces : List VariableSpace) (ids : IdTable) (pass : Pass)
    (sizes : SizeCache) (index : Nat) (shape : ProcedureShape) :
    let parts := ProcedureParts.cut contents base shape
    Load.ComesTo contents base phase phase (load spaces ids pass sizes index shape)
      (passing (shape.faults (contents.length - base) phase index) (do
        let privateBlock ← pass.apply spaces phase (.privateData index) parts.privateVars
          ⟨sizes, parts.privateData.getD []⟩
        let publicBlock ← pass.apply spaces phase (.publicData index) parts.publicVars
          ⟨privateBlock.sizes, parts.publicData.getD []⟩
        return (assemble ids index shape parts privateBlock.bytes publicBlock.bytes,
          publicBlock.sizes))) := by
  intro parts
  -- The code is read in one step, which has two of the faults.
  have stages : shape.faults (contents.length - base) phase index =
      [shape.privateData.fault? (contents.length - base) phase 1] ++
      ([shape.publicData.fault? (contents.length - base) phase 1] ++
      ([shape.raggedCode? phase index, shape.code.fault? (contents.length - base) phase 1] ++
      ([shape.privateStrings.fault? (contents.length - base) phase 4] ++
      ([shape.publicStrings.fault? (contents.length - base) phase 4] ++
      ([shape.privateVars.fault? (contents.length - base) phase 56] ++
      [shape.publicVars.fault? (contents.length - base) phase 56]))))) := rfl
  rw [stages]
  simp only [passing_append]
  unfold load
  apply Load.ComesTo.passing_bind (.part? _ (.bytes _))
  apply Load.ComesTo.passing_bind (.part? _ (.bytes _))
  apply Load.ComesTo.passing_bind (readCode_comesTo _ _)
  apply Load.ComesTo.passing_bind (.words _)
  apply Load.ComesTo.passing_bind (.words _)
  apply Load.ComesTo.passing_bind (Load.ComesTo.records _ _ (Nat.le_refl 56))
  apply Load.ComesTo.passing_bind (Load.ComesTo.records _ _ (Nat.le_refl 56))
  apply Load.ComesTo.get_bind
  rintro reader rfl
  apply Load.ComesTo.bind (.normalize _ _ _ _ _ _)
  intro privateBlock
  apply Load.ComesTo.bind (.normalize _ _ _ _ _ _)
  intro publicBlock
  simp only [bind_handlerAt]
  exact Load.ComesTo.pure _

/-- Loading a procedure decodes what its shape says.  With `parts` cut out of the module, it gives
a procedure exactly when the code is whole words, every section lies inside the module, and the
pass accepts the private data and then the public data; the procedure has these parts, with the
data as the pass leaves them, and the sizes found come with it.  An error ends it exactly when it
is the first of the faults in their order, behind which the private and then the public layout
come.  And from every place in the module the outcome is the same. -/
theorem load_decodes_shape (spaces : List VariableSpace) (ids : IdTable) (pass : Pass)
    (sizes : SizeCache) (index : Nat) (shape : ProcedureShape) (contents : List UInt8)
    (base : Nat) (phase : Phase) (reader : Reader)
    (inside : reader.Inside contents base phase) :
    let available := contents.length - base
    let parts := ProcedureParts.cut contents base shape
    let privately := pass.apply spaces phase (.privateData index) parts.privateVars
      ⟨sizes, parts.privateData.getD []⟩
    let publicly := fun privateBlock : Workspace =>
      pass.apply spaces phase (.publicData index) parts.publicVars
        ⟨privateBlock.sizes, parts.publicData.getD []⟩
    let loaded := fun reader => outcomeOf (load spaces ids pass sizes index shape reader)
    (∀ procedure found, loaded reader = .ok (procedure, found) ↔
      shape.code.count % 4 = 0 ∧ shape.Fits available ∧
        ∃ privateBlock publicBlock, privately = .ok privateBlock ∧
          publicly privateBlock = .ok publicBlock ∧
          procedure = assemble ids index shape parts privateBlock.bytes publicBlock.bytes ∧
          found = publicBlock.sizes) ∧
    (∀ error, loaded reader = .error error ↔
      ∃ passed, First
        (shape.faults available phase index ++
          [errorOf? privately, errorOf? (privately >>= publicly)])
        (fun check => check.isSome = true) passed (some error)) ∧
    ∀ other : Reader, other.Inside contents base phase → loaded other = loaded reader := by
  intro available parts privately publicly loaded
  have ends (reader : Reader) (inside : reader.Inside contents base phase) : loaded reader =
      passing (shape.faults available phase index) (privately >>= fun privateBlock =>
        publicly privateBlock >>= fun publicBlock =>
          pure (assemble ids index shape parts privateBlock.bytes publicBlock.bytes,
            publicBlock.sizes)) :=
    (load_comesTo_cut spaces ids pass sizes index shape reader inside).1
  refine ⟨?_, ?_, fun other elsewhere => (ends other elsewhere).trans (ends reader inside).symm⟩
  · intro procedure found
    rw [ends reader inside, passing_eq_ok, ProcedureShape.faults_eq_none, and_assoc]
    simp only [bind_eq_ok]
    constructor
    · rintro ⟨whole, fits, privateBlock, accepted, publicBlock, accepted', same⟩
      cases same
      exact ⟨whole, fits, privateBlock, publicBlock, accepted, accepted', rfl, rfl⟩
    · rintro ⟨whole, fits, privateBlock, publicBlock, accepted, accepted', rfl, rfl⟩
      exact ⟨whole, fits, privateBlock, accepted, publicBlock, accepted', rfl⟩
  · intro error
    rw [ends reader inside, ← passing_errorOf?, passing_eq_error, List.append_assoc,
      errorOf?_bind_congr privately fun privateBlock => errorOf?_bind_pure (publicly privateBlock) _]
    exact Iff.rfl

end Cut

/-- A procedure with one word of code and a variable of two bytes, read from behind its data. -/
theorem load_short_decodes :
    let short : Variable := ⟨.ofBase (.scalar .short), 9, 0, 0⟩
    let contents := [1, 0, 0, 0, 0x12, 0x34] ++ short.encode
    let none : Section := ⟨0, 0⟩
    let shape : ProcedureShape :=
      ⟨3, 0, 0, ⟨6, 1⟩, none, none, none, none, ⟨4, 2⟩, none, ⟨0, 4⟩, 0, 0⟩
    ∃ procedure found,
      outcomeOf (load [] .empty .swap [] 7 shape (.over contents 0 .procedures 5)) =
        .ok (procedure, found) ∧
      procedure.privateData = some [0x34, 0x12] ∧ procedure.code = some [1] ∧
      procedure.privateVars = [short] := by
  intro short contents none shape
  let parts := ProcedureParts.cut contents 0 shape
  have fits : shape.Fits contents.length := by
    constructor <;> unfold Section.Fits <;> decide +kernel
  have reversed : Pass.swap.apply [] .procedures (.privateData 7) parts.privateVars
      ⟨[], parts.privateData.getD []⟩ = .ok ⟨[], [0x34, 0x12]⟩ := by
    decide +kernel
  have nothing : Pass.swap.apply [] .procedures (.publicData 7) parts.publicVars
      ⟨[], parts.publicData.getD []⟩ = .ok ⟨[], []⟩ := by
    decide +kernel
  have decodes := load_decodes_shape [] .empty .swap [] 7 shape contents 0 .procedures
    (.over contents 0 .procedures 5) ⟨5, by decide +kernel, rfl⟩
  refine ⟨assemble .empty 7 shape parts [0x34, 0x12] [], [], ?_, ?_⟩
  · exact (decodes.1 _ _).mpr ⟨by decide, fits, _, _, reversed, nothing, rfl, rfl⟩
  · decide +kernel

end Procedure

end CompiledModule
