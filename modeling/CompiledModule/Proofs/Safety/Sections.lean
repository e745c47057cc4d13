import CompiledModule.Header
import CompiledModule.Procedure
import CompiledModule.Proofs.Safety.Indexes
import CompiledModule.SourceListing
import CompiledModule.SystemCall
import CompiledModule.EmbeddedFile

namespace CompiledModule

/-!
# Sections that are read with every operation asked for

Before the entries of a table are read, the bytes that they need at least are multiplied out.  Most
tables stop at the largest number when the product is larger; the tables of files and of source
files do not, and need not, since a count is a word and an entry has few bytes.
-/

namespace Guarded

/-! ## Reading entries -/

def times (action : Guarded ε σ α) : (count : Nat) → Guarded ε σ (List α)
  | 0 => pure []
  | count + 1 => do
    let first ← action
    return first :: (← times action count)

def entries (part : Section) (body : (count : Nat) → Guarded LoadError Reader (List α)) :
    Guarded LoadError Reader (List α) :=
  if part.count = 0 then pure []
  else do
    let _ ← seek (.start part.offset)
    body part.count.toNat

def part? (part : Section) (body : Section → Guarded LoadError Reader α) :
    Guarded LoadError Reader (Option α) :=
  if part.count = 0 then pure none else some <$> body part

section Runs

variable [Memory]

def sectionBytes (part : Section) : Guarded LoadError Reader (List UInt8) :=
  entries part bytes

def sectionWords (part : Section) : Guarded LoadError Reader (List UInt32) :=
  entries part words

/-- Fails unless the entries of a table can follow.  The product stops at the largest number. -/
def reserve (size count : Nat) : Guarded LoadError Reader Unit :=
  plain (Load.reserve count size)

/-- Fails unless the entries of a table can follow.  The product is not checked. -/
def ensureAll (size count : Nat) : Guarded LoadError Reader Unit := do
  let total ← settle (product count size)
  plain (Load.ensure total)

/-- A section of entries, of which the least size is compared with what is there. -/
def table (part : Section) (cell : Cell) (check : (count : Nat) → Guarded LoadError Reader Unit)
    (entry : Guarded LoadError Reader α) : Guarded LoadError Reader (List α) :=
  entries part fun count => do
    check count
    plain (Load.allocate cell count)
    times entry count

def records (part : Section) (cell : Cell) (format : Record α) :
    Guarded LoadError Reader (List α) :=
  table part cell (reserve format.size) (record format)

end Runs

/-! ## The sections of a module -/

def readHeader (minimum : UInt32) : Guarded LoadError Reader Header := do
  plain (Load.enter .header)
  let _ ← seek (.start 0)
  let (first, header) ← record Header.format
  if first ≠ Header.magic then
    throw (.error (.badMagic first))
  if header.version < minimum then
    throw (.error (.unsupportedVersion header.version minimum))
  return header

section Sections

variable [Memory]

def readStrings (strings text : Section) : Guarded LoadError Reader StringPool := do
  let offsets ← sectionWords strings
  let text ← sectionBytes text
  match StringPool.firstPast text.length 0 offsets with
  | some (index, start) =>
    throw (.error (.malformed (← get).phase (.stringPastText index start text.length)))
  | none => return { offsets := offsets.toArray, text := text.toArray }

/-- Reads the entry of a file, whose place is counted from the start of the stream. -/
def readFile : Guarded LoadError Reader EmbeddedFile := do
  let (nameSize, contents) ← record EmbeddedFile.format
  let name ← name nameSize.toNat
  let offset ← settle (sum (← get).base contents.offset.toNat)
  return { name, offset, size := contents.count }

def readFiles (part : Section) : Guarded LoadError Reader (List EmbeddedFile) :=
  table part .file (ensureAll EmbeddedFile.format.size) readFile

def readIds (part : Section) : Guarded LoadError Reader IdTable := do
  return IdTable.ofList (← records part .idEntry IdTable.format)

def readSpaces (directory : Section) : Guarded LoadError Reader (List VariableSpace) := do
  let tables ← records directory .spacePlace VariableSpace.entryFormat
  plain (Load.allocate .space tables.length)
  tables.mapM fun members => records members .var Variable.format

def readPaths (part : Section) : Guarded LoadError Reader (List String) :=
  table part .path (ensureAll 4) do
    let size ← word
    name size.toNat

def readCalls (part : Section) : Guarded LoadError Reader (List SystemCall) :=
  table part .systemCall (reserve SystemCall.format.size) do
    let call ← record SystemCall.format
    let signature ← bytes call.params.toNat
    return { call with signature }

def readCode (index : Nat) (code : Section) : Guarded LoadError Reader (Option (List UInt32)) := do
  unless code.count % 4 = 0 do
    throw (.error (.malformed (← get).phase (.raggedCode index code.count)))
  part? code fun code => sectionWords ⟨code.offset, code.count / 4⟩

end Sections

/-! ## Agreement -/

theorem times_agrees {guarded : Guarded LoadError Reader α} {action : Load α}
    (agrees : Agrees Reader.InRange Unrestricted guarded action) (count : Nat) :
    Agrees Reader.InRange Unrestricted (times guarded count) (Load.times action count) := by
  induction count with
  | zero => exact Agrees.pure trivial
  | succ count ih =>
    apply agrees.bind
    intro first _
    apply ih.bind
    intro rest _
    exact Agrees.pure trivial

theorem entries_agrees (part : Section) {guarded : Nat → Guarded LoadError Reader (List α)}
    {body : Nat → Load (List α)}
    (agrees : ∀ count < 2 ^ 32, Agrees Reader.InRange Unrestricted (guarded count) (body count)) :
    Agrees Reader.InRange Unrestricted (entries part guarded) (part.entries body) := by
  unfold entries Section.entries
  by_cases empty : part.count = 0
  · rw [if_pos empty, if_pos empty]
    exact Agrees.pure trivial
  · rw [if_neg empty, if_neg empty]
    apply (seek_agrees _).bind
    intro _ _
    exact agrees _ part.count.toNat_lt

theorem part?_agrees (part : Section) {guarded : Section → Guarded LoadError Reader α}
    {body : Section → Load α}
    (agrees : Agrees Reader.InRange Unrestricted (guarded part) (body part)) :
    Agrees Reader.InRange Unrestricted (part? part guarded) (part.part? body) := by
  unfold part? Section.part?
  by_cases empty : part.count = 0
  · rw [if_pos empty, if_pos empty]
    exact Agrees.pure trivial
  · rw [if_neg empty, if_neg empty]
    apply agrees.bind
    intro _ _
    exact Agrees.pure trivial

theorem reserve_agrees (size count : Nat) :
    Agrees Reader.InRange Unrestricted (reserve size count) (Load.reserve count size) :=
  ensure_agrees _

/-- A word times the size of an entry is far below the largest number, so stopping there makes no
difference. -/
theorem ensureAll_agrees {size count : Nat} (small : size ≤ 2 ^ 31) (word : count < 2 ^ 32) :
    Agrees Reader.InRange Unrestricted (ensureAll size count) (Load.reserve count size) := by
  have fits : count * size < sizeLimit := by
    calc count * size
      _ ≤ (2 ^ 32) * 2 ^ 31 := Nat.mul_le_mul (Nat.le_of_lt word) small
      _ < sizeLimit := by decide
  apply Agrees.settle_bind (product_eq fits)
  rw [Load.reserve, saturated_of_lt fits]
  exact ensure_agrees _

theorem mapM_agrees {guarded : α → Guarded LoadError Reader β} {action : α → Load β}
    (agrees : ∀ entry, Agrees Reader.InRange Unrestricted (guarded entry) (action entry))
    (entries : List α) :
    Agrees Reader.InRange Unrestricted (entries.mapM guarded) (entries.mapM action) := by
  induction entries with
  | nil => exact Agrees.pure trivial
  | cons entry rest ih =>
    rw [List.mapM_cons, List.mapM_cons]
    apply (agrees entry).bind
    intro _ _
    apply ih.bind
    intro _ _
    exact Agrees.pure trivial

theorem enter_agrees (phase : Phase) :
    Agrees Reader.InRange Unrestricted (plain (Load.enter phase)) (Load.enter phase) :=
  Agrees.plain fun _ inRange => ⟨trivial, inRange.position, inRange.finish, inRange.room⟩

theorem readHeader_agrees (minimum : UInt32) :
    Agrees Reader.InRange Unrestricted (readHeader minimum) (Header.read minimum) := by
  apply (enter_agrees .header).bind
  intro _ _
  apply (seek_agrees _).bind
  intro _ _
  apply (record_agrees Header.format).bind
  rintro ⟨first, header⟩ _
  by_cases foreign : first ≠ Header.magic
  · simp only [if_pos foreign]
    exact Agrees.throw_bind _ _ _
  simp only [if_neg foreign]
  by_cases old : header.version < minimum
  · simp only [if_pos old]
    exact Agrees.throw_bind _ _ _
  · simp only [if_neg old]
    exact Agrees.pure trivial

variable [Memory]

theorem sectionBytes_agrees (part : Section) :
    Agrees Reader.InRange Unrestricted (sectionBytes part) part.bytes :=
  entries_agrees part fun count _ => (bytes_agrees count).weaken fun _ _ => trivial

theorem sectionWords_agrees (part : Section) :
    Agrees Reader.InRange Unrestricted (sectionWords part) part.words :=
  entries_agrees part fun count _ => words_agrees count

theorem table_agrees (part : Section) (cell : Cell) (size : Nat)
    {check : Nat → Guarded LoadError Reader Unit} {guarded : Guarded LoadError Reader α}
    {entry : Load α}
    (checks : ∀ count < 2 ^ 32,
      Agrees Reader.InRange Unrestricted (check count) (Load.reserve count size))
    (agrees : Agrees Reader.InRange Unrestricted guarded entry) :
    Agrees Reader.InRange Unrestricted (table part cell check guarded)
      (part.table cell size entry) := by
  apply entries_agrees part
  intro count word
  have reserved : Agrees Reader.InRange Unrestricted
      (check count >>= fun _ => plain (Load.allocate cell count))
      (Load.reserveFor cell count size) :=
    (checks count word).bind fun _ _ => allocate_agrees cell count
  have all : Agrees Reader.InRange Unrestricted _ _ :=
    reserved.bind fun _ _ => times_agrees agrees count
  rwa [bind_assoc] at all

theorem records_agrees (part : Section) (cell : Cell) (format : Record α) :
    Agrees Reader.InRange Unrestricted (records part cell format) (part.records cell format) :=
  table_agrees part cell format.size (fun count _ => reserve_agrees format.size count)
    (record_agrees format)

/-! ## Agreement of sections -/

theorem readStrings_agrees (strings text : Section) :
    Agrees Reader.InRange StringPool.InRange (readStrings strings text)
      (StringPool.read strings text) := by
  apply (sectionWords_agrees strings).bind
  intro offsets _
  apply (sectionBytes_agrees text).bind
  intro text _
  cases past : StringPool.firstPast text.length 0 offsets with
  | some found =>
    rcases found with ⟨index, start⟩
    apply Agrees.get_bind
    intro reader _
    exact Agrees.throw _
  | none =>
    apply Agrees.pure
    intro start member
    simpa using StringPool.inside_of_firstPast past start (by simpa using member)

theorem readFile_agrees : Agrees Reader.InRange Unrestricted readFile EmbeddedFile.readEntry := by
  apply (record_agrees _).bind
  rintro ⟨nameSize, contents⟩ _
  apply (name_agrees _).bind
  intro name _
  apply Agrees.get_bind
  intro reader inRange
  have word := contents.offset.toNat_lt
  have fits : reader.base + contents.offset.toNat < sizeLimit := by
    have finish := inRange.finish
    have room := inRange.room
    omega
  apply Agrees.settle_bind (sum_eq fits)
  exact Agrees.pure trivial

theorem readFiles_agrees (part : Section) :
    Agrees Reader.InRange Unrestricted (readFiles part) (EmbeddedFile.readTable part) :=
  table_agrees part .file _ (fun _ word => ensureAll_agrees (by decide) word) readFile_agrees

theorem readIds_agrees (part : Section) :
    Agrees Reader.InRange IdTable.InRange (readIds part) (IdTable.read part) := by
  apply (records_agrees part .idEntry IdTable.format).bind
  intro entries _
  exact Agrees.pure (IdTable.inRange_ofList entries)

theorem readSpaces_agrees (directory : Section) :
    Agrees Reader.InRange Unrestricted (readSpaces directory) (VariableSpace.readAll directory) := by
  apply (records_agrees directory .spacePlace _).bind
  intro tables _
  apply (allocate_agrees .space _).bind
  intro _ _
  exact mapM_agrees (fun members => records_agrees members .var Variable.format) tables

theorem readPaths_agrees (part : Section) :
    Agrees Reader.InRange Unrestricted (readPaths part) (SourceListing.readPaths part) := by
  apply table_agrees part .path 4 fun _ word => ensureAll_agrees (by decide) word
  apply word_agrees.bind
  intro size _
  exact name_agrees size.toNat

theorem readCalls_agrees (part : Section) :
    Agrees Reader.InRange Unrestricted (readCalls part) (SystemCall.readTable part) := by
  apply table_agrees part .systemCall _ fun count _ => reserve_agrees _ count
  apply (record_agrees _).bind
  intro call _
  apply (bytes_agrees _).bind
  intro signature _
  exact Agrees.pure trivial

theorem readCode_agrees (index : Nat) (code : Section) :
    Agrees Reader.InRange Unrestricted (readCode index code) (Procedure.readCode index code) := by
  unfold readCode Procedure.readCode
  by_cases whole : code.count % 4 = 0
  · simp only [if_pos whole]
    exact part?_agrees code (sectionWords_agrees _)
  · simp only [if_neg whole]
    apply Agrees.get_bind
    intro reader _
    exact Agrees.throw_bind _ _ _

end Guarded

end CompiledModule
