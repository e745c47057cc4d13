import CompiledModule.ByteOrder.Lemmas
import CompiledModule.Proofs.Reading.Alone
import CompiledModule.Proofs.Reading.Results

namespace CompiledModule

/-!
# What was read stands in the contents

A reading in memory that succeeds has found its values where the section says: an entry of a table
of records so many records behind the offset of the section, a word of a table of words so many
words behind it, and the bytes of a block at the offset itself.  This is the other direction of a
round trip, and it holds of all contents, whether or not a module was ever written to them.
-/

/-- The bytes of a record stand at this place of the contents, and this is their value. -/
def Record.At (format : Record α) (contents : List UInt8) (place : Nat) (value : α) : Prop :=
  ∃ whole : ((contents.drop place).take format.size).length = format.size,
    format.decode ⟨(contents.drop place).take format.size, whole⟩ = value

theorem Record.At.fits {format : Record α} {contents : List UInt8} {place : Nat} {value : α}
    (stands : format.At contents place value) (filled : 0 < format.size) :
    place + format.size ≤ contents.length := by
  rcases stands with ⟨whole, _⟩
  rw [List.length_take, List.length_drop] at whole
  omega

/-- The bytes of a word stand at this place of the contents. -/
def WordAt (contents : List UInt8) (place : Nat) (word : UInt32) : Prop :=
  place + 4 ≤ contents.length ∧ SpellsWord ((contents.drop place).take 4) word

namespace Load

variable {contents : List UInt8} {base position : Nat} {phase : Phase} {after : Reader}

/-! ## From a place on -/

theorem record_over {format : Record α} {value : α}
    (read : record format (.over contents base phase position) = .ok value after) :
    format.At contents (base + position) value ∧
      after = .over contents base phase (position + format.size) := by
  by_cases fits : position + format.size ≤ contents.length - base
  · rw [record_inside fits] at read
    cases read
    exact ⟨⟨length_bytesAt fits, rfl⟩, rfl⟩
  · rw [record_short fits] at read
    cases read

/-- The induction is on the number of records; each of them begins where the one before has
ended. -/
theorem times_record_over {format : Record α} {count : Nat} {values : List α}
    (read : times (record format) count (.over contents base phase position) = .ok values after) :
    ∀ index value, values[index]? = some value →
      format.At contents (base + position + index * format.size) value := by
  induction count generalizing position values after with
  | zero =>
    cases read
    intro index value impossible
    cases impossible
  | succ count ih =>
    rcases run_bind_eq_ok.mp read with ⟨first, middle, here, read⟩
    rcases run_bind_eq_ok.mp read with ⟨rest, behind, read, ended⟩
    cases ended
    rcases record_over here with ⟨stands, moved⟩
    rw [moved] at read
    intro index value found
    cases index with
    | zero =>
      cases found
      rwa [Nat.zero_mul, Nat.add_zero]
    | succ index =>
      have later := ih read index value found
      have place : base + (position + format.size) + index * format.size =
          base + position + (index + 1) * format.size := by
        rw [Nat.succ_mul]
        omega
      rwa [place] at later

theorem getElem?_splitWords {count index : Nat} {bytes : List UInt8} {word : UInt32}
    (found : (splitWords count bytes)[index]? = some word) :
    index < count ∧ ByteOrder.file.word ((bytes.drop (index * 4)).take 4) = word := by
  induction count generalizing index bytes with
  | zero => cases found
  | succ count ih =>
    rw [splitWords] at found
    cases index with
    | zero =>
      cases found
      exact ⟨Nat.succ_pos count, rfl⟩
    | succ index =>
      rcases ih found with ⟨inside, same⟩
      rw [List.drop_drop] at same
      refine ⟨Nat.succ_lt_succ inside, ?_⟩
      rwa [Nat.succ_mul, Nat.add_comm]

/-- A part of the bytes at a place are the bytes at another place. -/
theorem bytesAt_window {count start length : Nat} (inside : start + length ≤ count) :
    ((bytesAt contents base position count).drop start).take length =
      (contents.drop (base + position + start)).take length := by
  rw [bytesAt, List.drop_take, List.take_take, List.drop_drop]
  congr 1
  omega

/-! ## Sections -/

theorem alone_eq_ok {action : Load α} {value : α} :
    alone contents base phase action = .ok value ↔
      base ≤ contents.length ∧
        ∃ after, action (.over contents base phase 0) = .ok value after := by
  by_cases inside : base ≤ contents.length
  · rw [alone_eq inside]
    constructor
    · intro read
      exact ⟨inside, leftBy (action _), result_eq_ok.mpr ⟨read, rfl⟩⟩
    · intro read
      rcases read with ⟨_, after, read⟩
      exact (result_eq_ok.mp read).1
  · constructor
    · intro read
      rw [alone, Reader.open?_behind inside] at read
      cases read
    · intro read
      exact absurd read.1 inside

/-- The first of two actions has had a result. -/
theorem alone_of_bind {action : Load α} {next : α → Load β} {value : β}
    (read : alone contents base phase (action >>= next) = .ok value) :
    ∃ found, alone contents base phase action = .ok found := by
  rcases alone_eq_ok.mp read with ⟨inside, _, read⟩
  rcases run_bind_eq_ok.mp read with ⟨found, middle, first, _⟩
  exact ⟨found, alone_eq_ok.mpr ⟨inside, middle, first⟩⟩

/-- A section that is not empty is read from its offset on. -/
theorem alone_entries {part : Section} {body : Nat → Load (List α)} {values : List α}
    (read : alone contents base phase (part.entries body) = .ok values) (filled : part.count ≠ 0) :
    ∃ after, body part.count.toNat (.over contents base phase part.offset.toNat) =
      .ok values after := by
  rcases alone_eq_ok.mp read with ⟨inside, after, read⟩
  rw [Section.entries, if_neg filled] at read
  rcases run_bind_eq_ok.mp read with ⟨place, middle, went, read⟩
  rw [seek_start_over] at went
  split at went
  · cases went
    exact ⟨after, read⟩
  · cases went

/-- What is in a section's table was read from the section's offset on. -/
theorem alone_getElem? {part : Section} {body : Nat → Load (List α)} {values : List α} {index : Nat}
    {value : α} (read : alone contents base phase (part.entries body) = .ok values)
    (among : values[index]? = some value) :
    ∃ after, body part.count.toNat (.over contents base phase part.offset.toNat) =
      .ok values after := by
  apply alone_entries read
  intro none
  rw [Section.entries, if_pos none] at read
  rcases alone_eq_ok.mp read with ⟨_, _, read⟩
  cases read
  cases among

/-! ## Runs of values -/

variable [Memory]

theorem bytes_over {count : Nat} {found : List UInt8}
    (read : bytes count (.over contents base phase position) = .ok found after) :
    position + count ≤ contents.length - base ∧ found = bytesAt contents base position count := by
  rcases run_bind_eq_ok.mp read with ⟨_, middle, ensured, read⟩
  by_cases fits : position + count ≤ contents.length - base
  · rw [ensure_inside fits] at ensured
    cases ensured
    rcases run_bind_eq_ok.mp read with ⟨_, granted, room, read⟩
    cases after_allocate room
    rcases run_bind_eq_ok.mp read with ⟨taken, last, took, ended⟩
    cases ended
    rw [fixed_inside fits] at took
    cases took
    exact ⟨fits, rfl⟩
  · rw [ensure_short fits] at ensured
    cases ensured

theorem words_over {count : Nat} {found : List UInt32}
    (read : words count (.over contents base phase position) = .ok found after) :
    ∀ index word, found[index]? = some word →
      WordAt contents (base + position + index * 4) word := by
  intro index word among
  have split : (bytes (count * 4) >>= fun bytes => Pure.pure (splitWords count bytes))
      (.over contents base phase position) = .ok found after := by
    by_cases small : count * 4 < sizeLimit
    · rwa [words_eq small] at read
    · rw [words, if_pos (Nat.le_of_not_lt small)] at read
      rcases run_bind_eq_ok.mp read with ⟨_, _, impossible, _⟩
      cases impossible
  rcases run_bind_eq_ok.mp split with ⟨bytes, middle, taken, ended⟩
  cases ended
  rcases bytes_over taken with ⟨fits, here⟩
  rcases getElem?_splitWords among with ⟨inside, same⟩
  rw [here, bytesAt_window (by omega)] at same
  have four : ((contents.drop (base + position + index * 4)).take 4).length = 4 := by
    rw [List.length_take, List.length_drop]
    omega
  exact ⟨by omega, (spellsWord_iff four).mpr same.symm⟩

theorem alone_records {part : Section} {cell : Cell} {format : Record α}
    {values : List α}
    (read : alone contents base phase (part.records cell format) = .ok values) :
    ∀ index value, values[index]? = some value →
      format.At contents (base + part.offset.toNat + index * format.size) value := by
  intro index value among
  rw [Section.records, Section.table] at read
  rcases alone_getElem? read among with ⟨after, read⟩
  rcases run_bind_eq_ok.mp read with ⟨_, granted, room, read⟩
  rcases run_bind_eq_ok.mp room with ⟨_, reserved, there, room⟩
  cases after_allocate room
  rw [reserve, ensure_over] at there
  split at there
  · cases there
    exact times_record_over read index value among
  · cases there

theorem alone_words {part : Section} {found : List UInt32}
    (read : alone contents base phase part.words = .ok found) :
    ∀ index word, found[index]? = some word →
      WordAt contents (base + part.offset.toNat + index * 4) word := by
  intro index word among
  rw [Section.words] at read
  rcases alone_getElem? read among with ⟨after, read⟩
  exact words_over read index word among

theorem alone_bytes {part : Section} {found : List UInt8}
    (read : alone contents base phase part.bytes = .ok found) :
    found = (contents.drop (base + part.offset.toNat)).take part.count.toNat := by
  rw [Section.bytes] at read
  by_cases none : part.count = 0
  · rcases alone_eq_ok.mp read with ⟨_, _, read⟩
    rw [Section.entries, if_pos none] at read
    cases read
    rw [none]
    rfl
  · rcases alone_entries read none with ⟨after, read⟩
    exact (bytes_over read).2

end Load

/-- A header that was read stands at the base, behind the bytes that every module begins with. -/
theorem Header.alone_read {contents : List UInt8} {base : Nat} {phase : Phase} {minimum : UInt32}
    {header : Header} (read : Load.alone contents base phase (Header.read minimum) = .ok header) :
    format.At contents base (magic, header) ∧ minimum ≤ header.version := by
  rcases Load.alone_eq_ok.mp read with ⟨_, after, read⟩
  rcases run_bind_eq_ok.mp read with ⟨_, entered, enters, read⟩
  cases enters
  rcases run_bind_eq_ok.mp read with ⟨_, there, went, read⟩
  have start : Load.seek (.start 0) (.over contents base .header 0) = .ok _ there := went
  have inside : (0 : UInt32).toNat ≤ contents.length - base := Nat.zero_le _
  rw [Load.seek_start_over, if_pos inside] at start
  cases start
  rcases run_bind_eq_ok.mp read with ⟨⟨first, found⟩, behind, decoded, read⟩
  rcases Load.record_over decoded with ⟨stands, _⟩
  by_cases foreign : first ≠ magic
  · simp only [if_pos foreign] at read
    rcases run_bind_eq_ok.mp read with ⟨_, _, impossible, _⟩
    cases impossible
  simp only [if_neg foreign] at read
  by_cases old : found.version < minimum
  · simp only [if_pos old] at read
    rcases run_bind_eq_ok.mp read with ⟨_, _, impossible, _⟩
    cases impossible
  simp only [if_neg old] at read
  cases read
  rw [Decidable.not_not.mp foreign] at stands
  exact ⟨stands, UInt32.not_lt.mp old⟩

/-- The two readings of a pool, each of them alone. -/
theorem StringPool.alone_read [Memory] {contents : List UInt8} {base : Nat} {phase : Phase}
    {strings text : Section} {pool : StringPool}
    (read : Load.alone contents base phase (StringPool.read strings text) = .ok pool) :
    Load.alone contents base phase strings.words = .ok pool.offsets.toList ∧
      Load.alone contents base phase text.bytes = .ok pool.text.toList := by
  rcases Load.alone_eq_ok.mp read with ⟨inModule, after, read⟩
  have start : (Reader.over contents base phase 0).Inside contents base phase :=
    ⟨0, Nat.zero_le _, rfl⟩
  rcases run_bind_eq_ok.mp read with ⟨offsets, middle, first, read⟩
  rcases run_bind_eq_ok.mp read with ⟨bytes, last, second, read⟩
  rcases Load.ComesTo.alone_of_inside inModule (Load.Placeless.words strings) start first with
    ⟨firstAlone, inside⟩
  rcases Load.ComesTo.alone_of_inside inModule (Load.Placeless.bytes text) inside second with
    ⟨secondAlone, _⟩
  cases past : firstPast bytes.length 0 offsets with
  | some found =>
    rw [past] at read
    rcases run_bind_eq_ok.mp read with ⟨_, _, _, impossible⟩
    cases impossible
  | none =>
    rw [past] at read
    cases read
    exact ⟨firstAlone, secondAlone⟩

end CompiledModule
