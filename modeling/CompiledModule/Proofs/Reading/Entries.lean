import CompiledModule.Proofs.Reading.Shaped
import CompiledModule.Proofs.Reading.Stored
import CompiledModule.Proofs.RoundTrip.Placed
import CompiledModule.Proofs.RoundTrip.WrittenForm

namespace CompiledModule

/-!
# Entries with lengths of their own

The tables of files, of source paths and of system calls have entries that say themselves how long
they are: a few words, one of which counts the bytes behind them.  Where an entry begins is therefore
known only when the one before it has been read.

An `EntryForm` says what it means that an entry stands from one place in a module to another, with
some value; a `Row` is made of entries of which each begins where the one before it ends.  A table is
read exactly when a row of the right length stands at its offset, inside the module, and then the row
is what is read and its end is where the reader is left.

Before the first entry is read the table is refused if its fixed parts alone would not fit.  No row
is lost by that, however many entries a table claims to have.
-/

/-- What it means that an entry with a value stands from a first place in a module to a second. -/
abbrev EntryForm (α : Type) :=
  (contents : List UInt8) → (base start finish : Nat) → (value : α) → Prop

/-- A file: three words, and a slot for the name of as many bytes as the first of them says. -/
def EmbeddedFile.EntryAt : EntryForm EmbeddedFile := fun contents base start finish file =>
  ∃ (nameSize offset : UInt32) (slot : List UInt8),
    slot.length = nameSize.toNat ∧
      Stands contents (base + start) (storedWords [nameSize, file.size, offset] ++ slot) ∧
      finish = start + 12 + nameSize.toNat ∧
      SlotSpells slot file.name ∧ file.offset = base + offset.toNat

/-- A path: a word, and a slot of as many bytes as it says. -/
def SourceListing.PathAt : EntryForm String := fun contents base start finish path =>
  ∃ (size : UInt32) (slot : List UInt8),
    slot.length = size.toNat ∧ Stands contents (base + start) (storedWord size ++ slot) ∧
      finish = start + 4 + size.toNat ∧ SlotSpells slot path

/-- A system call that is not bound: four words, and a byte for each parameter. -/
def SystemCall.EntryAt : EntryForm SystemCall := fun contents base start finish call =>
  call.signature.length = call.params.toNat ∧
    Stands contents (base + start)
      (storedWords [call.nameCode, call.kind, call.params, call.callCode] ++ call.signature) ∧
    finish = start + 16 + call.params.toNat ∧ call.binding = none

/-- Entries one after another, from a first place in a module to a second. -/
inductive Row (form : EntryForm α) (contents : List UInt8) (base : Nat) :
    (start finish : Nat) → List α → Prop
  | nil (place : Nat) : Row form contents base place place []
  | cons {start middle finish : Nat} {value : α} {rest : List α}
    (first : form contents base start middle value)
    (others : Row form contents base middle finish rest) :
    Row form contents base start finish (value :: rest)

/-- An entry has at least so many bytes, and all of its bytes are in the contents. -/
def EntryForm.AtLeast (form : EntryForm α) (size : Nat) : Prop :=
  ∀ contents base start finish value, form contents base start finish value →
    start + size ≤ finish ∧ base + finish ≤ contents.length

namespace Load

/-- The action reads one entry of this form and stops behind it; and where no such entry stands it
fails. -/
def ReadsEntry (entry : Load α) (form : EntryForm α) : Prop :=
  ∀ contents base phase start value after,
    entry (.over contents base phase start) = .ok value after ↔
      ∃ finish, form contents base start finish value ∧ after = .over contents base phase finish

/-! ## Fixed parts and what follows them -/

variable {contents : List UInt8} {base start count : Nat} {phase : Phase} {after : Reader}

theorem stands_bytesAt (inside : base + (start + count) ≤ contents.length) :
    Stands contents (base + start) (bytesAt contents base start count) := by
  have fits : start + count ≤ contents.length - base := by omega
  apply Stands.of_take_drop (by omega)
  rw [length_bytesAt fits, bytesAt]

theorem record_stands {format : Record α} {write : α → List UInt8} {value : α}
    (keeps : format.parser.Keeps [] write) (filled : 0 < format.size)
    (read : record format (.over contents base phase start) = .ok value after) :
    Stands contents (base + start) (write value) ∧ (write value).length = format.size ∧
      after = .over contents base phase (start + format.size) := by
  by_cases fits : start + format.size ≤ contents.length - base
  · rw [record_inside fits] at read
    cases read
    rw [Record.write_decode keeps]
    exact ⟨stands_bytesAt (by omega), length_bytesAt fits, rfl⟩
  · rw [record_short fits] at read
    cases read

variable [Memory]

/-- A record, and then as many bytes as it says. -/
def prefixed (format : Record α) (more : α → UInt32) : Load (α × List UInt8) := do
  let head ← record format
  let tail ← bytes (more head).toNat
  return (head, tail)

theorem bytes_stand {found : List UInt8} (room : Memory.grants count = true)
    (inside : base + start ≤ contents.length)
    (read : bytes count (.over contents base phase start) = .ok found after) :
    Stands contents (base + start) found ∧ found.length = count ∧
      after = .over contents base phase (start + count) := by
  rw [bytes_slice room] at read
  split at read
  · rename_i fits
    cases read
    exact ⟨stands_bytesAt (by omega), length_bytesAt fits, rfl⟩
  · cases read

variable [Memory.Ample]

theorem prefixed_stands {format : Record α} {write : α → List UInt8} {more : α → UInt32} {head : α}
    {tail : List UInt8} (keeps : format.parser.Keeps [] write) (filled : 0 < format.size)
    (read : prefixed format more (.over contents base phase start) = .ok (head, tail) after) :
    tail.length = (more head).toNat ∧ Stands contents (base + start) (write head ++ tail) ∧
      after = .over contents base phase (start + format.size + (more head).toNat) := by
  rcases run_bind_eq_ok.mp read with ⟨_, middle, headRead, read⟩
  rcases run_bind_eq_ok.mp read with ⟨_, behind, tailRead, ended⟩
  cases ended
  rcases record_stands keeps filled headRead with ⟨headStands, length, moved⟩
  have fits := headStands.fits
  rw [length] at fits
  rw [moved] at tailRead
  rcases bytes_stand (Memory.grants_bytes (more head).toNat_lt) (by omega) tailRead
    with ⟨tailStands, tailLength, moved⟩
  rw [← Nat.add_assoc, ← length] at tailStands
  exact ⟨tailLength, headStands.append tailStands, moved⟩

theorem Reads.prefixed {format : Record α} {more : α → UInt32} {front tail : List UInt8} {head : α}
    (reads : format.Reads front head) (length : tail.length = (more head).toNat) :
    Reads base (prefixed format more) (front ++ tail) (head, tail) :=
  (Reads.record reads).bind
    ((Reads.bytes length (Memory.grants_bytes (more head).toNat_lt)).bind_pure (head, ·))

end Load

/-! ## The entries of the three tables -/

open Load

def wordFormat : Record UInt32 where
  size := 4
  parser := FieldParser.word
  fills := FieldParser.Consumes.word

theorem wordFormat_reads (value : UInt32) : wordFormat.Reads (storedWord value) value where
  parses := FieldParser.Parses.word value
  length := length_storedWord value

theorem Load.word_eq_record : word = record wordFormat := by
  have decoded : ∀ four : Bytes 4, ByteOrder.file.word four.val = wordFormat.decode four := by
    intro four
    have keeps : wordFormat.parser.Keeps [] storedWord := FieldParser.Keeps.word
    rw [← Record.write_decode keeps four, storedWord, ByteOrder.word_wordBytes]
  simp only [word, decoded]
  rfl

section Entries

variable [Memory]

theorem EmbeddedFile.readEntry_eq :
    readEntry = prefixed format (·.1) >>= fun entry => get >>= fun reader =>
      pure ⟨nameOfSlot entry.2, reader.base + entry.1.2.offset.toNat, entry.1.2.count⟩ := by
  simp only [readEntry, prefixed, Load.name, bind_assoc, pure_bind]

theorem SourceListing.readPath_eq :
    readPath = prefixed wordFormat id >>= fun entry => pure (nameOfSlot entry.2) := by
  simp only [readPath, prefixed, Load.name, Load.word_eq_record, bind_assoc, pure_bind, id]

theorem SystemCall.readEntry_eq :
    readEntry = prefixed format (·.params) >>= fun entry =>
      pure { entry.1 with signature := entry.2 } := by
  simp only [readEntry, prefixed, bind_assoc, pure_bind]

variable [Memory.Ample]

theorem EmbeddedFile.readEntry_readsEntry : ReadsEntry readEntry EntryAt := by
  intro contents base phase start file after
  rw [readEntry_eq]
  constructor
  · intro read
    rcases run_bind_eq_ok.mp read with ⟨⟨⟨nameSize, part⟩, slot⟩, middle, read, ended⟩
    rcases prefixed_stands format_keeps (by decide) read with ⟨length, stands, moved⟩
    rw [moved] at ended
    cases ended
    exact ⟨_, ⟨nameSize, part.offset, slot, length, stands, rfl, slotSpells_iff.mpr rfl, rfl⟩, rfl⟩
  · intro there
    rcases there with ⟨finish, ⟨nameSize, offset, slot, length, stands, ends, named, placed⟩, moved⟩
    have reads : Reads base (prefixed format (·.1))
        (storedWords [nameSize, file.size, offset] ++ slot) ((nameSize, ⟨offset, file.size⟩), slot) :=
      Reads.prefixed (format_reads nameSize ⟨offset, file.size⟩) length
    have size : (storedWords [nameSize, file.size, offset] ++ slot).length =
        12 + nameSize.toNat := by
      rw [List.length_append, length_storedWords, length]
      rfl
    rw [run_bind_of_ok (reads contents phase start stands), size, ← Nat.add_assoc, ← ends, moved]
    cases file
    cases slotSpells_iff.mp named
    cases placed
    rfl

theorem SourceListing.readPath_readsEntry : ReadsEntry readPath PathAt := by
  intro contents base phase start path after
  rw [readPath_eq]
  constructor
  · intro read
    rcases run_bind_eq_ok.mp read with ⟨⟨size, slot⟩, middle, read, ended⟩
    rcases prefixed_stands FieldParser.Keeps.word (by decide) read with ⟨length, stands, moved⟩
    rw [moved] at ended
    cases ended
    exact ⟨_, ⟨size, slot, length, stands, rfl, slotSpells_iff.mpr rfl⟩, rfl⟩
  · intro there
    rcases there with ⟨finish, ⟨size, slot, length, stands, ends, named⟩, moved⟩
    have reads : Reads base (prefixed wordFormat id) (storedWord size ++ slot) (size, slot) :=
      Reads.prefixed (wordFormat_reads size) length
    have whole : (storedWord size ++ slot).length = 4 + size.toNat := by
      rw [List.length_append, length_storedWord, length]
    rw [run_bind_of_ok (reads contents phase start stands), whole, ← Nat.add_assoc, ← ends, moved,
      slotSpells_iff.mp named]
    rfl

/-- A call is not bound when it has just been read. -/
theorem SystemCall.readEntry_readsEntry : ReadsEntry readEntry EntryAt := by
  intro contents base phase start call after
  constructor
  · intro read
    rw [readEntry_eq] at read
    rcases run_bind_eq_ok.mp read with ⟨⟨head, signature⟩, middle, read, ended⟩
    rcases prefixed_stands format_keeps (by decide) read with ⟨length, stands, moved⟩
    have unbound : head.binding = none := by
      rcases run_bind_eq_ok.mp read with ⟨first, _, headRead, rest⟩
      rcases run_bind_eq_ok.mp rest with ⟨_, _, _, same⟩
      cases same
      rcases (record_over headRead).1 with ⟨_, decoded⟩
      rw [← decoded]
      exact binding_decode _
    rw [moved] at ended
    cases ended
    exact ⟨_, ⟨length, stands, rfl, unbound⟩, rfl⟩
  · intro there
    rcases there with ⟨finish, ⟨length, stands, ends, unbound⟩, moved⟩
    have reads : Reads base (prefixed format (·.params)) call.encode
        ({ call with signature := [], binding := none }, call.signature) :=
      Reads.prefixed (format_reads call) length
    have whole : call.encode.length = 16 + call.params.toNat := by
      rw [encode, List.length_append, length_storedWords, length]
      rfl
    rw [readEntry_eq, run_bind_of_ok (reads contents phase start stands), whole, ← Nat.add_assoc,
      ← ends, moved, ← unbound]
    rfl

end Entries

/-! ## Rows -/

section Rows

variable {form : EntryForm α} {contents : List UInt8} {base start finish size : Nat}
  {values : List α}

theorem EmbeddedFile.entryAt_atLeast : EntryForm.AtLeast EntryAt 12 := by
  intro contents base start finish file there
  rcases there with ⟨nameSize, offset, slot, length, stands, ends, -, -⟩
  have fits := stands.fits
  rw [List.length_append, length_storedWords] at fits
  simp only [List.length_cons, List.length_nil] at fits
  omega

theorem SourceListing.pathAt_atLeast : EntryForm.AtLeast PathAt 4 := by
  intro contents base start finish path there
  rcases there with ⟨size, slot, length, stands, ends, -⟩
  have fits := stands.fits
  rw [List.length_append, length_storedWord] at fits
  omega

theorem SystemCall.entryAt_atLeast : EntryForm.AtLeast EntryAt 16 := by
  intro contents base start finish call there
  rcases there with ⟨length, stands, ends, -⟩
  have fits := stands.fits
  rw [List.length_append, length_storedWords] at fits
  simp only [List.length_cons, List.length_nil] at fits
  omega

theorem Row.atLeast (least : form.AtLeast size)
    (row : Row form contents base start finish values) :
    start + values.length * size ≤ finish := by
  induction row with
  | nil place => simp
  | cons first _ ih =>
    have here := (least _ _ _ _ _ first).1
    rw [List.length_cons, Nat.succ_mul]
    omega

/-- The last entry is inside the module, and so are those before it. -/
theorem Row.inside (least : form.AtLeast size) (row : Row form contents base start finish values)
    (filled : values ≠ []) : base + finish ≤ contents.length := by
  induction row with
  | nil => exact absurd rfl filled
  | cons first others ih =>
    cases others with
    | nil => exact (least _ _ _ _ _ first).2
    | cons second others => exact ih (List.cons_ne_nil _ _)

/-- The induction is on the number of entries; the first one ends where the others begin. -/
theorem Load.ReadsEntry.times {entry : Load α} (reads : ReadsEntry entry form) {phase : Phase}
    {count : Nat} {after : Reader} :
    times entry count (.over contents base phase start) = .ok values after ↔
      values.length = count ∧ ∃ finish, Row form contents base start finish values ∧
        after = .over contents base phase finish := by
  induction count generalizing start values after with
  | zero =>
    constructor
    · intro read
      cases read
      exact ⟨rfl, start, .nil start, rfl⟩
    · intro there
      rcases there with ⟨none, finish, row, moved⟩
      cases List.eq_nil_of_length_eq_zero none
      cases row
      rw [moved]
      rfl
  | succ count ih =>
    constructor
    · intro read
      rcases run_bind_eq_ok.mp read with ⟨value, middle, first, read⟩
      rcases run_bind_eq_ok.mp read with ⟨rest, behind, others, ended⟩
      cases ended
      rcases (reads _ _ _ _ _ _).mp first with ⟨next, here, moved⟩
      rw [moved] at others
      rcases ih.mp others with ⟨length, finish, row, moved⟩
      exact ⟨congrArg Nat.succ length, finish, .cons here row, moved⟩
    · intro there
      rcases there with ⟨length, finish, row, moved⟩
      cases row with
      | nil => cases length
      | cons here row =>
        have first := (reads _ _ phase _ _ _).mpr ⟨_, here, rfl⟩
        have others := ih.mpr ⟨Nat.succ.inj length, finish, row, moved⟩
        rw [Load.times, run_bind_of_ok first, run_bind_of_ok others]
        rfl

/-- The check in advance lets every row pass. -/
theorem Row.reserve (least : form.AtLeast size) (row : Row form contents base start finish values)
    (filled : values ≠ []) (phase : Phase) :
    Load.reserve values.length size (.over contents base phase start) =
      .ok () (.over contents base phase start) := by
  have total := row.atLeast least
  have inside := row.inside least filled
  have below : saturated (values.length * size) ≤ values.length * size := Nat.min_le_left _ _
  exact Load.ensure_inside (by omega)

end Rows

/-! ## Tables -/

section Tables

/-- The reading of a section takes exactly the rows of this form, whose entries have at least `size`
bytes each. -/
structure Section.TakesRows (read : Section → Load (List α)) (form : EntryForm α) (size : Nat) :
    Prop where
  /-- A section without entries is empty wherever its offset is, and the reader stays in its place. -/
  empty : ∀ (part : Section) (reader : Reader), part.count = 0 → read part reader = .ok [] reader
  /-- Any other one is read when there is a row of so many entries at its offset, and only then. -/
  filled : ∀ (part : Section) (contents : List UInt8) (base : Nat) (phase : Phase)
    (position : Nat) (values : List α) (after : Reader), part.count ≠ 0 →
      (read part (.over contents base phase position) = .ok values after ↔
        values.length = part.count.toNat ∧
          ∃ finish, Row form contents base part.offset.toNat finish values ∧
            after = .over contents base phase finish)
  /-- Where the check in advance fails there is no such row. -/
  early : ∀ (part : Section) (contents : List UInt8) (base : Nat) (phase : Phase)
    (error : LoadError) (after : Reader), part.count ≠ 0 →
      Load.reserve part.count.toNat size (.over contents base phase part.offset.toNat) =
        .error error after →
      ∀ (finish : Nat) (values : List α), values.length = part.count.toNat →
        ¬ Row form contents base part.offset.toNat finish values

theorem Section.ne_nil {part : Section} {values : List α} (filled : part.count ≠ 0)
    (length : values.length = part.count.toNat) : values ≠ [] := by
  rintro rfl
  exact filled (UInt32.toNat_inj.mp length.symm)

variable [Memory] [Memory.Ample]

theorem Section.takesRows (cell : Cell) {entry : Load α} {form : EntryForm α} {size : Nat}
    (reads : ReadsEntry entry form) (least : form.AtLeast size) :
    TakesRows (fun part => part.table cell size entry) form size where
  empty part reader none := by
    simp only [table, entries, if_pos none]
    rfl
  filled part contents base phase position values after filled := by
    simp only [table, entries, if_neg filled]
    constructor
    · intro read
      rcases run_bind_eq_ok.mp read with ⟨_, there, went, read⟩
      rw [reserveFor_counted cell part.count.toNat_lt] at read
      rcases run_bind_eq_ok.mp read with ⟨_, checked, reserved, read⟩
      rw [seek_start_over] at went
      split at went
      · cases went
        rw [reserve, ensure_over] at reserved
        split at reserved
        · cases reserved
          exact reads.times.mp read
        · cases reserved
      · cases went
    · intro there
      rcases there with ⟨length, finish, row, moved⟩
      have some := ne_nil filled length
      have total := row.atLeast least
      have inside := row.inside least some
      have reserved := row.reserve least some phase
      rw [length] at reserved
      rw [reserveFor_counted cell part.count.toNat_lt, run_bind_of_ok (seek_inside (by omega)),
        run_bind_of_ok reserved]
      exact reads.times.mpr ⟨length, finish, row, moved⟩
  early part contents base phase error after filled refused finish values length row := by
    have reserved := row.reserve least (ne_nil filled length) phase
    rw [length, refused] at reserved
    cases reserved

/-- The tables of files, of source paths and of system calls are read whenever they fit.  A table
that is not empty is read exactly when as many entries as it claims to have stand one behind another
from its offset on, each with its fixed part and with what follows it inside the module; those
entries are then what is read, and the reader is left behind the last of them.  The check in advance
refuses no such table.  An empty table is read without a look at its offset. -/
theorem tables_take_rows :
    Section.TakesRows EmbeddedFile.readTable EmbeddedFile.EntryAt 12 ∧
      Section.TakesRows SourceListing.readPaths SourceListing.PathAt 4 ∧
      Section.TakesRows SystemCall.readTable SystemCall.EntryAt 16 :=
  ⟨Section.takesRows .file EmbeddedFile.readEntry_readsEntry EmbeddedFile.entryAt_atLeast,
    Section.takesRows .path SourceListing.readPath_readsEntry SourceListing.pathAt_atLeast,
    Section.takesRows .systemCall SystemCall.readEntry_readsEntry SystemCall.entryAt_atLeast⟩

end Tables

/-- A table of two files, a table of two paths, and a table of one system call.  The name of the
first file ends before its slot does, and the second path has no bytes at all. -/
def threeTables : List UInt8 :=
  (storedWords [4, 2, 100] ++ [0x61, 0x62, 0, 0x7A]) ++ (storedWords [2, 0, 7] ++ [0xC3, 0xA9]) ++
    (storedWord 4 ++ [0x6D, 0x2E, 0x63, 0x63]) ++ storedWord 0 ++
      SystemCall.encode ⟨1, 0, 2, 40, [6, 6], none⟩

theorem tables_take_named_rows :
    EmbeddedFile.readTable ⟨0, 2⟩ (.over threeTables 0 .includedFiles 9) =
        .ok [⟨"ab", 100, 2⟩, ⟨"é", 7, 0⟩] (.over threeTables 0 .includedFiles 30) ∧
      SourceListing.readPaths ⟨30, 2⟩ (.over threeTables 0 .sourceListings 0) =
        .ok ["m.cc", ""] (.over threeTables 0 .sourceListings 42) ∧
      SystemCall.readTable ⟨42, 1⟩ (.over threeTables 0 .relocation 0) =
        .ok [⟨1, 0, 2, 40, [6, 6], none⟩] (.over threeTables 0 .relocation 60) := by
  have stands (place : Nat) (part : List UInt8)
      (there : place ≤ threeTables.length ∧ (threeTables.drop place).take part.length = part) :
      Stands threeTables (0 + place) part := by
    rw [Nat.zero_add]
    exact .of_take_drop there.1 there.2
  have shortName : EmbeddedFile.EntryAt threeTables 0 0 16 ⟨"ab", 100, 2⟩ :=
    ⟨4, 100, [0x61, 0x62, 0, 0x7A], rfl, stands 0 _ (by decide +kernel), rfl,
      slotSpells_iff.mpr (by decide +kernel), rfl⟩
  have fullName : EmbeddedFile.EntryAt threeTables 0 16 30 ⟨"é", 7, 0⟩ :=
    ⟨2, 7, [0xC3, 0xA9], rfl, stands 16 _ (by decide +kernel), rfl,
      slotSpells_iff.mpr (by decide +kernel), rfl⟩
  have path : SourceListing.PathAt threeTables 0 30 38 "m.cc" :=
    ⟨4, [0x6D, 0x2E, 0x63, 0x63], rfl, stands 30 _ (by decide +kernel), rfl,
      slotSpells_iff.mpr (by decide +kernel)⟩
  have noPath : SourceListing.PathAt threeTables 0 38 42 "" :=
    ⟨0, [], rfl, stands 38 _ (by decide +kernel), rfl, slotSpells_iff.mpr (by decide +kernel)⟩
  have call : SystemCall.EntryAt threeTables 0 42 60 ⟨1, 0, 2, 40, [6, 6], none⟩ :=
    ⟨rfl, stands 42 _ (by decide +kernel), rfl, rfl⟩
  rcases tables_take_rows with ⟨files, paths, calls⟩
  refine ⟨?_, ?_, ?_⟩
  · exact (files.filled _ _ _ _ _ _ _ (by decide)).mpr
      ⟨rfl, 30, .cons shortName (.cons fullName (.nil 30)), rfl⟩
  · exact (paths.filled _ _ _ _ _ _ _ (by decide)).mpr
      ⟨rfl, 42, .cons path (.cons noPath (.nil 42)), rfl⟩
  · exact (calls.filled _ _ _ _ _ _ _ (by decide)).mpr ⟨rfl, 60, .cons call (.nil 60), rfl⟩

end CompiledModule
