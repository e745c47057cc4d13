import CompiledModule.Proofs.Reading.Alone
import CompiledModule.Proofs.RoundTrip.Fields
import Mathlib.Data.List.Forall2

namespace CompiledModule

/-!
# Reading what stands at a place

`Stands` says that a run of bytes stands at a place of a module's stream, and `Load.Reads` says what
an action makes of a run when the reader stands in front of it: it takes the run and nothing more
and gives a value.  A run that is made of two runs is read by two actions, so the entries of a table
are read one after another, each from its own bytes.

A section holds a run when the run stands at its offset.  Reading the section then comes to the
values of the entries, wherever the reader was before and whatever stands around the section.
-/

/-- The bytes stand at this place of the contents. -/
def Stands (contents : List UInt8) (place : Nat) (part : List UInt8) : Prop :=
  ∃ before after, contents = before ++ part ++ after ∧ before.length = place

namespace Stands

variable {contents front back part : List UInt8} {place : Nat}

theorem fits (stands : Stands contents place part) : place + part.length ≤ contents.length := by
  rcases stands with ⟨before, after, rfl, rfl⟩
  simp only [List.length_append]
  omega

theorem left (stands : Stands contents place (front ++ back)) : Stands contents place front := by
  rcases stands with ⟨before, after, rfl, rfl⟩
  exact ⟨before, back ++ after, by simp only [List.append_assoc], rfl⟩

theorem right (stands : Stands contents place (front ++ back)) :
    Stands contents (place + front.length) back := by
  rcases stands with ⟨before, after, rfl, rfl⟩
  exact ⟨before ++ front, after, by simp only [List.append_assoc], List.length_append⟩

theorem take_drop (stands : Stands contents place part) :
    (contents.drop place).take part.length = part := by
  rcases stands with ⟨before, after, rfl, rfl⟩
  rw [List.append_assoc, List.drop_left, List.take_left]

theorem of_take_drop (inside : place ≤ contents.length)
    (here : (contents.drop place).take part.length = part) : Stands contents place part := by
  have whole := List.take_append_drop place contents
  have split := List.take_append_drop part.length (contents.drop place)
  rw [here] at split
  rw [← split, ← List.append_assoc] at whole
  exact ⟨_, _, whole.symm, List.length_take_of_le inside⟩

/-- Two runs of which the second one stands behind the first one are one run. -/
theorem append (first : Stands contents place front)
    (second : Stands contents (place + front.length) back) :
    Stands contents place (front ++ back) := by
  rcases first with ⟨before, after, split, length⟩
  rcases second with ⟨before', after', split', length'⟩
  have same : before ++ front ++ after = before' ++ (back ++ after') := by
    rw [← split, ← List.append_assoc, ← split']
  have lengths : (before ++ front).length = before'.length := by
    rw [List.length_append, length, length']
  have behind := (List.append_inj same lengths).2
  rw [behind] at split
  exact ⟨before, after', by rw [split]; simp only [List.append_assoc], length⟩

end Stands

/-! ## Runs of entries -/

theorem mul_le_length_flatMap {encode : β → List UInt8} {size : Nat} {values : List β}
    (least : ∀ value ∈ values, size ≤ (encode value).length) :
    values.length * size ≤ (values.flatMap encode).length := by
  induction values with
  | nil => simp
  | cons value rest ih =>
    have first := least value List.mem_cons_self
    have others := ih fun other member => least other (List.mem_cons_of_mem value member)
    rw [List.length_cons, Nat.succ_mul, List.flatMap_cons, List.length_append]
    omega

theorem length_le_length_flatMap (encode : β → List UInt8) {value : β} {values : List β}
    (member : value ∈ values) : (encode value).length ≤ (values.flatMap encode).length := by
  rcases List.append_of_mem member with ⟨before, after, rfl⟩
  rw [List.flatMap_append, List.flatMap_cons, List.length_append, List.length_append]
  omega

namespace Load

/-- In a module that begins at `base` the action takes these bytes, and no more, for this value. -/
def Reads (base : Nat) (action : Load α) (part : List UInt8) (value : α) : Prop :=
  ∀ contents phase position, Stands contents (base + position) part →
    action (.over contents base phase position) =
      .ok value (.over contents base phase (position + part.length))

variable {base : Nat}

namespace Reads

theorem pure (value : α) : Reads base (pure value) [] value :=
  fun _ _ _ _ => rfl

theorem bind {action : Load α} {next : α → Load β} {front back : List UInt8} {value : α}
    {result : β} (reads : Reads base action front value) (goesOn : Reads base (next value) back result) :
    Reads base (action >>= next) (front ++ back) result := by
  intro contents phase position stands
  have behind := stands.right
  rw [Nat.add_assoc] at behind
  rw [run_bind_of_ok (reads contents phase position stands.left), List.length_append,
    ← Nat.add_assoc]
  exact goesOn contents phase _ behind

/-- What comes behind may take nothing. -/
theorem bind_nil {action : Load α} {next : α → Load β} {part : List UInt8} {value : α} {result : β}
    (reads : Reads base action part value) (goesOn : Reads base (next value) [] result) :
    Reads base (action >>= next) part result := by
  have both := reads.bind goesOn
  rw [List.append_nil] at both
  exact both

theorem bind_pure {action : Load α} {part : List UInt8} {value : α}
    (reads : Reads base action part value) (function : α → β) :
    Reads base (action >>= fun value => Pure.pure (function value)) part (function value) :=
  reads.bind_nil (pure (function value))

theorem fixed {count : Nat} {part : List UInt8} (exactly : part.length = count) :
    Reads base (fixed count) part ⟨part, exactly⟩ := by
  intro contents phase position stands
  subst exactly
  have inside : position + part.length ≤ contents.length - base := by
    have := stands.fits
    omega
  have here : bytesAt contents base position part.length = part := stands.take_drop
  rw [fixed_inside inside]
  simp only [here]

theorem record {format : Record α} {part : List UInt8} {value : α}
    (reads : format.Reads part value) : Reads base (record format) part value := by
  have whole : Reads base (Load.record format) part (format.decode ⟨part, reads.length⟩) :=
    (fixed reads.length).bind_pure format.decode
  rw [reads.decode] at whole
  exact whole

theorem word (value : UInt32) : Reads base word (storedWord value) value := by
  have four : Reads base Load.word (storedWord value) (ByteOrder.file.word (storedWord value)) :=
    (fixed (length_storedWord value)).bind_pure fun bytes => ByteOrder.file.word bytes.val
  have decoded : ByteOrder.file.word (storedWord value) = value := ByteOrder.word_wordBytes _ _
  rw [decoded] at four
  exact four

/-- An action may ask where the module begins. -/
theorem get_bind {next : Reader → Load α} {part : List UInt8} {value : α}
    (reads : ∀ reader : Reader, reader.base = base → Reads base (next reader) part value) :
    Reads base (get >>= next) part value := by
  intro contents phase position stands
  exact reads (.over contents base phase position) rfl contents phase position stands

/-- The entries of a table stand one behind another. -/
theorem times {entry : Load α} {encode : β → List UInt8} {decode : β → α} :
    ∀ {values : List β}, (∀ value ∈ values, Reads base entry (encode value) (decode value)) →
      Reads base (times entry values.length) (values.flatMap encode) (values.map decode)
  | [], _ => pure []
  | value :: rest, reads => by
    have first := reads value List.mem_cons_self
    have others := times fun other member => reads other (List.mem_cons_of_mem value member)
    rw [List.flatMap_cons, List.map_cons]
    exact first.bind (others.bind_pure (decode value :: ·))

/-- An action that begins with a move to a run of bytes takes this run. -/
theorem run_at {contents : List UInt8} {phase : Phase} {offset : UInt32} {action : Load α}
    {part : List UInt8} {value : α} (reads : Reads base action part value)
    (stands : Stands contents (base + offset.toNat) part) (position : Nat) :
    (seek (.start offset) >>= fun _ => action) (.over contents base phase position) =
      .ok value (.over contents base phase (offset.toNat + part.length)) := by
  have fits := stands.fits
  have there : offset.toNat ≤ contents.length - base := by omega
  rw [run_bind_of_ok (seek_inside there)]
  exact reads contents phase offset.toNat stands

theorem comes_at {contents : List UInt8} {phase : Phase} {offset : UInt32} {action : Load α}
    {part : List UInt8} {value : α} (reads : Reads base action part value)
    (stands : Stands contents (base + offset.toNat) part) :
    ComesTo contents base phase phase (seek (.start offset) >>= fun _ => action) (.ok value) := by
  have fits := stands.fits
  have behind : offset.toNat + part.length ≤ contents.length - base := by omega
  rintro _ ⟨position, _, rfl⟩
  rw [reads.run_at stands position]
  refine ⟨rfl, ?_⟩
  intro _ left ended
  cases ended
  exact ⟨_, behind, rfl⟩

variable [Memory]

theorem bytes {count : Nat} {part : List UInt8} (exactly : part.length = count)
    (room : Memory.grants count = true) : Reads base (bytes count) part part := by
  intro contents phase position stands
  have inside : position + count ≤ contents.length - base := by
    have := stands.fits
    omega
  rw [Load.bytes, run_bind_of_ok (ensure_inside inside), allocate_bytes room]
  exact (fixed exactly).bind_pure Subtype.val contents phase position stands

theorem words {count : Nat} {values : List UInt32} (exactly : values.length = count)
    (room : Memory.grants (count * 4) = true) :
    Reads base (words count) (storedWords values) values := by
  have length : (storedWords values).length = count * 4 := by
    rw [length_storedWords, exactly]
  have taken : Reads base (Load.bytes (count * 4) >>= fun bytes => Pure.pure (splitWords count bytes))
      (storedWords values) (splitWords count (storedWords values)) :=
    (bytes length room).bind_pure (splitWords count)
  have split : splitWords count (storedWords values) = values := by
    rw [← exactly]
    exact splitWords_storedWords values
  rw [split] at taken
  rw [words_eq (lt_sizeLimit_of_grants room)]
  exact taken

theorem name {size : Nat} {part : List UInt8} (exactly : part.length = size)
    (room : Memory.grants size = true) : Reads base (name size) part (nameOfSlot part) :=
  (bytes exactly room).bind_pure nameOfSlot

/-- Before the entries of a table are read, their least size is compared with what is left. -/
theorem reserve_times [Memory.Ample] (cell : Cell) {entry : Load α} {encode : β → List UInt8}
    {decode : β → α} {size : Nat} {values : List β} (counted : values.length < 2 ^ 32)
    (reads : ∀ value ∈ values, Reads base entry (encode value) (decode value))
    (least : ∀ value ∈ values, size ≤ (encode value).length) :
    Reads base (reserveFor cell values.length size >>= fun _ => Load.times entry values.length)
      (values.flatMap encode) (values.map decode) := by
  intro contents phase position stands
  have total := mul_le_length_flatMap least
  have inside : position + saturated (values.length * size) ≤ contents.length - base := by
    have := stands.fits
    have : saturated (values.length * size) ≤ values.length * size := Nat.min_le_left _ _
    omega
  rw [reserveFor_counted cell counted, reserve, run_bind_of_ok (ensure_inside inside)]
  exact times reads contents phase position stands

end Reads

end Load

/-! ## Sections -/

/-- The section has this many entries, and these bytes stand at its offset. -/
structure Section.Holds (contents : List UInt8) (base : Nat) (part : Section) (count : Nat)
    (bytes : List UInt8) : Prop where
  count : part.count.toNat = count
  stands : Stands contents (base + part.offset.toNat) bytes

namespace Section.Holds

open Load

variable {contents bytes : List UInt8} {base count : Nat} {part : Section} {phase : Phase}

/-- Every count of a section is a word. -/
theorem counted (holds : part.Holds contents base count bytes) : count < 2 ^ 32 := by
  rw [← holds.count]
  exact part.count.toNat_lt

theorem comes_entries {body : Nat → Load (List α)} {values : List α}
    (holds : part.Holds contents base count bytes) (reads : Reads base (body count) bytes values)
    (empty : count = 0 → values = []) :
    ComesTo contents base phase phase (part.entries body) (.ok values) := by
  unfold Section.entries
  by_cases none : part.count = 0
  · have zero : count = 0 := by
      rw [← holds.count, none]
      rfl
    rw [if_pos none, empty zero]
    exact ComesTo.pure []
  · rw [if_neg none, holds.count]
    exact reads.comes_at holds.stands

variable [Memory] [Memory.Ample]

theorem comes_bytes (holds : part.Holds contents base bytes.length bytes) :
    ComesTo contents base phase phase part.bytes (.ok bytes) := by
  apply holds.comes_entries
  · exact Reads.bytes rfl (Memory.grants_bytes holds.counted)
  · exact List.eq_nil_of_length_eq_zero

theorem comes_words {words : List UInt32}
    (holds : part.Holds contents base words.length (storedWords words)) :
    ComesTo contents base phase phase part.words (.ok words) := by
  apply holds.comes_entries
  · exact Reads.words rfl (Memory.grants_words holds.counted)
  · exact List.eq_nil_of_length_eq_zero

theorem comes_table (cell : Cell) {entry : Load α} {encode : β → List UInt8} {decode : β → α}
    {size : Nat} {values : List β}
    (holds : part.Holds contents base values.length (values.flatMap encode))
    (reads : ∀ value ∈ values, Reads base entry (encode value) (decode value))
    (least : ∀ value ∈ values, size ≤ (encode value).length) :
    ComesTo contents base phase phase (part.table cell size entry) (.ok (values.map decode)) := by
  apply holds.comes_entries
  · exact Reads.reserve_times cell holds.counted reads least
  · intro zero
    rw [List.eq_nil_of_length_eq_zero zero]
    rfl

theorem comes_records (cell : Cell) {format : Record α} {encode : α → List UInt8} {values : List α}
    (holds : part.Holds contents base values.length (values.flatMap encode))
    (reads : ∀ value ∈ values, format.Reads (encode value) value) :
    ComesTo contents base phase phase (part.records cell format) (.ok values) := by
  have records :
      ComesTo contents base phase phase (part.records cell format) (.ok (values.map id)) := by
    apply holds.comes_table cell
    · intro value member
      exact Reads.record (reads value member)
    · intro value member
      exact Nat.le_of_eq (reads value member).length.symm
  rw [List.map_id] at records
  exact records

end Section.Holds

/-! ## Sections that are made of sections -/

namespace Load.ComesTo

variable {contents : List UInt8} {base : Nat} {phase : Phase}

theorem map {action : Load α} {value : α} (function : α → β)
    (comes : ComesTo contents base phase phase action (.ok value)) :
    ComesTo contents base phase phase (function <$> action) (.ok (function value)) :=
  comes.bind_ok (pure (function value))

theorem mapM {action : β → Load α} {entries : List β} {values : List α}
    (comes : List.Forall₂
      (fun entry value => ComesTo contents base phase phase (action entry) (.ok value))
      entries values) :
    ComesTo contents base phase phase (entries.mapM action) (.ok values) := by
  induction comes with
  | nil => exact pure []
  | cons first _ ih =>
    rw [List.mapM_cons]
    exact first.bind_ok (ih.map _)

end Load.ComesTo

end CompiledModule
