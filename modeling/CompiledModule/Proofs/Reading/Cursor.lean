import CompiledModule.ByteOrder.Lemmas
import CompiledModule.Proofs.Reading.Shaped
import CompiledModule.Proofs.Text.Utf8

namespace CompiledModule

/-!
# Where a reader stands

A reader keeps its own account of where it stands and does not ask its stream.  It even leaves the
stream alone when it is to go where it stands already.  So whatever it reads is only as right as that
account: the stream has to stand just as far behind the base as the reader says.

Over bytes in memory this is so at every time, whatever has been asked of the reader before and
however often it has refused.  A request that is refused changes nothing; one that moves the reader
goes exactly where it says, and is accepted exactly when that is inside the module; and a read takes
the bytes behind the position, and is accepted exactly when there are as many.  The one other reason
for which a read may fail is that no room is granted for so many bytes, which cannot happen where
there is room for the whole module.
-/

/-! ## Requests -/

inductive ReaderAnswer where
  | done
  | place (position : Nat)
  | word (value : UInt32)
  | words (values : List UInt32)
  | bytes (values : List UInt8)
  | name (text : String)
  deriving DecidableEq, Repr

inductive ReadRequest where
  | word
  | words (count : Nat)
  | bytes (count : Nat)
  /-- Bytes for which there is room already. -/
  | into (count : Nat)
  | name (size : Nat)
  deriving DecidableEq, Repr

namespace ReadRequest

def size : ReadRequest → Nat
  | word => 4
  | words count => count * 4
  | bytes count => count
  | into count => count
  | name size => size

/-- Room is granted for the bytes, if there is none yet. -/
def HasRoom [Memory] : ReadRequest → Prop
  | word => True
  | words count => Memory.grants (count * 4) = true
  | bytes count => Memory.grants count = true
  | into _ => True
  | name size => Memory.grants size = true

/-- What a request is to answer when these are the bytes. -/
inductive Answers : ReadRequest → List UInt8 → ReaderAnswer → Prop
  | word (part : List UInt8) (value : UInt32) (spelt : SpellsWord part value) :
    Answers .word part (.word value)
  | words (parts : List (List UInt8)) (values : List UInt32)
    (spelt : List.Forall₂ SpellsWord parts values) :
    Answers (.words values.length) parts.flatten (.words values)
  | bytes (part : List UInt8) : Answers (.bytes part.length) part (.bytes part)
  | into (part : List UInt8) : Answers (.into part.length) part (.bytes part)
  | name (slot : List UInt8) (text : String) (spelt : SlotSpells slot text) :
    Answers (.name slot.length) slot (.name text)

def run [Memory] : ReadRequest → Load ReaderAnswer
  | word => do return .word (← Load.word)
  | words count => do return .words (← Load.words count)
  | bytes count => do return .bytes (← Load.bytes count)
  | into count => do return .bytes (← Load.fixed count).val
  | name size => do return .name (← Load.name size)

def answer : ReadRequest → List UInt8 → ReaderAnswer
  | word, part => .word (ByteOrder.file.word part)
  | words count, part => .words (splitWords count part)
  | bytes _, part => .bytes part
  | into _, part => .bytes part
  | name _, part => .name (nameOfSlot part)

theorem splitWords_spells {count : Nat} {part : List UInt8} (whole : part.length = count * 4) :
    ∃ parts, part = parts.flatten ∧ List.Forall₂ SpellsWord parts (splitWords count part) := by
  induction count generalizing part with
  | zero =>
    rw [Nat.zero_mul] at whole
    exact ⟨[], List.eq_nil_of_length_eq_zero whole, .nil⟩
  | succ count ih =>
    have first : (part.take 4).length = 4 := by
      rw [List.length_take]
      omega
    have rest : (part.drop 4).length = count * 4 := by
      rw [List.length_drop]
      omega
    rcases ih rest with ⟨parts, split, spelt⟩
    refine ⟨part.take 4 :: parts, ?_, .cons ((spellsWord_iff first).mpr rfl) spelt⟩
    rw [List.flatten_cons, ← split, List.take_append_drop]

theorem flatten_spells {parts : List (List UInt8)} {values : List UInt32}
    (spelt : List.Forall₂ SpellsWord parts values) :
    splitWords values.length parts.flatten = values := by
  induction spelt with
  | nil => rfl
  | cons here _ ih =>
    rcases here with ⟨first, second, third, fourth, rfl, same⟩
    have word := (spellsWord_iff rfl).mp ⟨first, second, third, fourth, rfl, same⟩
    change ByteOrder.file.word [first, second, third, fourth] :: splitWords _ _ = _
    rw [← word]
    exact congrArg _ ih

/-- There is one answer. -/
theorem answers_iff {request : ReadRequest} {part : List UInt8} {given : ReaderAnswer}
    (whole : part.length = request.size) :
    request.Answers part given ↔ given = request.answer part := by
  constructor
  · intro answers
    cases answers with
    | word part value spelt => rw [answer, (spellsWord_iff whole).mp spelt]
    | words parts values spelt => rw [answer, flatten_spells spelt]
    | bytes => rfl
    | into => rfl
    | name slot text spelt => rw [answer, slotSpells_iff.mp spelt]
  · rintro rfl
    cases request with
    | word => exact .word part _ ((spellsWord_iff whole).mpr rfl)
    | words count =>
      rcases splitWords_spells whole with ⟨parts, split, spelt⟩
      have answers := Answers.words parts _ spelt
      rwa [length_splitWords, ← split] at answers
    | bytes count =>
      cases whole
      exact .bytes part
    | into count =>
      cases whole
      exact .into part
    | name size =>
      cases whole
      exact .name part _ (slotSpells_iff.mpr rfl)

end ReadRequest

inductive ReaderRequest where
  | enter (phase : Phase)
  | seek (target : Seek)
  | ensure (count : Nat)
  | reserve (cell : Cell) (count size : Nat)
  | read (request : ReadRequest)
  deriving DecidableEq, Repr

namespace ReaderRequest

def run [Memory] : ReaderRequest → Load ReaderAnswer
  | enter phase => do
    Load.enter phase
    return .done
  | seek target => do return .place (← Load.seek target)
  | ensure count => do
    Load.ensure count
    return .done
  | reserve cell count size => do
    Load.reserveFor cell count size
    return .done
  | read request => request.run

end ReaderRequest

/-- The reader after requests, some of which it may have refused. -/
def Reader.after [Memory] (reader : Reader) (requests : List ReaderRequest) : Reader :=
  requests.foldl (fun reader request => leftBy (request.run reader)) reader

/-- The reader is one over this module, it stands inside the module or right behind it, and its
stream stands where the reader says. -/
structure Reader.Coherent (contents : List UInt8) (start : Nat) (reader : Reader) : Prop where
  base : reader.base = start
  length : reader.length = contents.length - start
  inside : reader.position ≤ reader.length
  stream : reader.stream = { Stream.ofBytes contents with cursor := start + reader.position }

section Coherence

variable {contents : List UInt8} {base position : Nat} {phase : Phase} {reader : Reader}

theorem Reader.coherent_over (inside : position ≤ contents.length - base) :
    (Reader.over contents base phase position).Coherent contents base :=
  ⟨rfl, rfl, inside, rfl⟩

theorem Reader.Coherent.eq_over (coherent : reader.Coherent contents base) :
    reader = .over contents base reader.phase reader.position := by
  cases reader
  simp only [Reader.over, Reader.mk.injEq, and_true]
  exact ⟨coherent.stream, coherent.base, coherent.length⟩

/-! ## What a request comes to -/

namespace Load

/-- The reader goes exactly where it is told, or no place of the module has been named and it does
not move. -/
theorem seek_over (target : Seek) :
    let named := (Reader.over contents base phase position).destination target
    (∃ place, (named = (place : Nat) ∧ place ≤ contents.length - base) ∧
        seek target (.over contents base phase position) =
          .ok place (.over contents base phase place)) ∨
      (¬ ∃ place, named = (place : Nat) ∧ place ≤ contents.length - base) ∧
        seek target (.over contents base phase position) =
          .error (.io phase (.seekOutside target (contents.length - base)))
            (.over contents base phase position) := by
  intro named
  by_cases inside : 0 ≤ named ∧ named ≤ (contents.length - base : Nat)
  · rcases Int.eq_ofNat_of_zero_le inside.1 with ⟨place, same⟩
    refine Or.inl ⟨place, ⟨same, by omega⟩, (if_pos inside).trans ?_⟩
    change moveTo named.toNat _ = _
    rw [same]
    exact moveTo_over place
  · refine Or.inr ⟨?_, if_neg inside⟩
    intro found
    rcases found with ⟨place, same, there⟩
    exact inside (by omega)

end Load

theorem Reader.Coherent.seek_eq_ok (coherent : reader.Coherent contents base) {target : Seek}
    {place : Nat} {left : Reader} :
    Load.seek target reader = .ok place left ↔
      (reader.destination target = place ∧ place ≤ reader.length) ∧
        left = .over contents base reader.phase place := by
  have same := coherent.eq_over
  generalize reader.phase = phase, reader.position = position at same ⊢
  subst same
  rcases Load.seek_over target with ⟨there, named, moved⟩ | ⟨unnamed, stays⟩
  · rw [moved]
    constructor
    · intro ended
      cases ended
      exact ⟨named, rfl⟩
    · intro ended
      have same : place = there := by omega
      rw [ended.2, same]
  · rw [stays]
    constructor
    · intro impossible
      cases impossible
    · intro impossible
      exact absurd ⟨place, impossible.1⟩ unnamed

theorem Reader.Coherent.exists_seek (coherent : reader.Coherent contents base) (target : Seek) :
    (∃ place left, Load.seek target reader = .ok place left) ↔
      0 ≤ reader.destination target ∧ reader.destination target ≤ reader.length := by
  constructor
  · intro moved
    rcases moved with ⟨place, left, moved⟩
    have named := (coherent.seek_eq_ok.mp moved).1
    omega
  · intro named
    rcases Int.eq_ofNat_of_zero_le named.1 with ⟨place, same⟩
    exact ⟨place, _, coherent.seek_eq_ok.mpr ⟨⟨same, by omega⟩, rfl⟩⟩

variable [Memory]

namespace Load

/-- Bytes that are not there are not read, and neither are bytes without room. -/
theorem bytes_refused (phase : Phase) {count : Nat}
    (refused : ¬ (position + count ≤ contents.length - base ∧ Memory.grants count = true)) :
    ∃ error, bytes count (.over contents base phase position) =
      .error error (.over contents base phase position) := by
  by_cases fits : position + count ≤ contents.length - base
  · have cramped : ¬ Memory.grants count = true := fun room => refused ⟨fits, room⟩
    exact bytes_cramped cramped _
  · exact ⟨_, run_bind_of_error (ensure_short fits)⟩

theorem words_refused (phase : Phase) {count : Nat}
    (refused : ¬ (position + count * 4 ≤ contents.length - base ∧
      Memory.grants (count * 4) = true)) :
    ∃ error, words count (.over contents base phase position) =
      .error error (.over contents base phase position) := by
  by_cases small : count * 4 < sizeLimit
  · rcases bytes_refused phase refused with ⟨error, ended⟩
    rw [words_eq small]
    exact ⟨error, run_bind_of_error ended⟩
  · unfold words
    rw [if_pos (Nat.le_of_not_lt small)]
    exact ⟨_, rfl⟩

end Load

namespace ReadRequest

open Load

theorem run_accepted (request : ReadRequest) (room : request.HasRoom)
    (fits : position + request.size ≤ contents.length - base) :
    request.run (.over contents base phase position) =
      .ok (request.answer (bytesAt contents base position request.size))
        (.over contents base phase (position + request.size)) := by
  cases request with
  | word => exact run_bind_of_ok (run_bind_of_ok (fixed_inside fits))
  | words count =>
    have read : Load.words count (.over contents base phase position) = _ := words_slice room position
    exact run_bind_of_ok (read.trans (if_pos fits))
  | bytes count =>
    have read : Load.bytes count (.over contents base phase position) = _ := bytes_slice room position
    exact run_bind_of_ok (read.trans (if_pos fits))
  | into count => exact run_bind_of_ok (fixed_inside fits)
  | name size =>
    have read : Load.bytes size (.over contents base phase position) = _ := bytes_slice room position
    exact run_bind_of_ok (run_bind_of_ok (read.trans (if_pos fits)))

theorem run_refused (request : ReadRequest) (phase : Phase)
    (refused : ¬ (position + request.size ≤ contents.length - base ∧ request.HasRoom)) :
    ∃ error, request.run (.over contents base phase position) =
      .error error (.over contents base phase position) := by
  cases request with
  | word =>
    have short : ¬ position + 4 ≤ contents.length - base := fun fits => refused ⟨fits, trivial⟩
    exact ⟨_, run_bind_of_error (run_bind_of_error (fixed_short short))⟩
  | words count =>
    rcases words_refused phase refused with ⟨error, ended⟩
    exact ⟨error, run_bind_of_error ended⟩
  | bytes count =>
    rcases bytes_refused phase refused with ⟨error, ended⟩
    exact ⟨error, run_bind_of_error ended⟩
  | into count =>
    have short : ¬ position + count ≤ contents.length - base := fun fits => refused ⟨fits, trivial⟩
    exact ⟨_, run_bind_of_error (fixed_short short)⟩
  | name size =>
    rcases bytes_refused phase refused with ⟨error, ended⟩
    exact ⟨error, run_bind_of_error (run_bind_of_error ended)⟩

/-- Where there is room for a whole module there is room for every part of it. -/
theorem hasRoom_of_fits (request : ReadRequest)
    (roomy : ∀ count ≤ contents.length, Memory.grants count = true)
    (fits : position + request.size ≤ contents.length - base) : request.HasRoom := by
  have granted : Memory.grants request.size = true := roomy request.size (by omega)
  cases request with
  | word => trivial
  | words count => exact granted
  | bytes count => exact granted
  | into count => trivial
  | name size => exact granted

end ReadRequest

/-- A request leaves the reader inside its module, or is refused and leaves it as it was. -/
theorem ReaderRequest.run_over (request : ReaderRequest)
    (inside : position ≤ contents.length - base) :
    (∃ answer left, request.run (.over contents base phase position) = .ok answer left ∧
        left.Coherent contents base) ∨
      ∃ error, request.run (.over contents base phase position) =
        .error error (.over contents base phase position) := by
  cases request with
  | enter other => exact Or.inl ⟨.done, _, rfl, Reader.coherent_over inside⟩
  | seek target =>
    rcases Load.seek_over target with ⟨place, there, moved⟩ | ⟨_, stays⟩
    · exact Or.inl ⟨_, _, run_bind_of_ok moved, Reader.coherent_over there.2⟩
    · exact Or.inr ⟨_, run_bind_of_error stays⟩
  | ensure count =>
    by_cases fits : position + count ≤ contents.length - base
    · exact Or.inl
        ⟨.done, _, run_bind_of_ok (Load.ensure_inside fits), Reader.coherent_over inside⟩
    · exact Or.inr ⟨_, run_bind_of_error (Load.ensure_short fits)⟩
  | reserve cell count size =>
    by_cases fits : position + saturated (count * size) ≤ contents.length - base
    · have ensured : Load.reserveFor cell count size (.over contents base phase position) = _ :=
        run_bind_of_ok (Load.ensure_inside fits)
      have allocated := Load.allocate_eq cell count (.over contents base phase position)
      rw [← ensured] at allocated
      split at allocated
      · exact Or.inl ⟨.done, _, run_bind_of_ok allocated, Reader.coherent_over inside⟩
      · exact Or.inr ⟨_, run_bind_of_error allocated⟩
    · have short : Load.reserveFor cell count size (.over contents base phase position) = _ :=
        run_bind_of_error (Load.ensure_short fits)
      exact Or.inr ⟨_, run_bind_of_error short⟩
  | read request =>
    by_cases granted : position + request.size ≤ contents.length - base ∧ request.HasRoom
    · exact Or.inl ⟨_, _, request.run_accepted granted.2 granted.1, Reader.coherent_over granted.1⟩
    · exact Or.inr (request.run_refused phase granted)

namespace Reader

/-! ## After any requests -/

/-- The reader as it stands after a request that it accepts, or as it stood before one that it
refuses. -/
theorem Coherent.run (coherent : reader.Coherent contents base) (request : ReaderRequest) :
    (∃ answer left, request.run reader = .ok answer left ∧ left.Coherent contents base) ∨
      ∃ error, request.run reader = .error error reader := by
  have inside : reader.position ≤ contents.length - base := coherent.length ▸ coherent.inside
  rw [coherent.eq_over]
  exact request.run_over inside

/-- A request keeps a reader coherent, whether it is accepted or not. -/
theorem Coherent.step (coherent : reader.Coherent contents base) (request : ReaderRequest) :
    (leftBy (request.run reader)).Coherent contents base := by
  rcases coherent.run request with ⟨answer, left, ended, kept⟩ | ⟨error, ended⟩
  · rw [ended]
    exact kept
  · rw [ended]
    exact coherent

/-- So does any number of requests, by induction on them. -/
theorem Coherent.after (coherent : reader.Coherent contents base) (requests : List ReaderRequest) :
    (reader.after requests).Coherent contents base := by
  induction requests generalizing reader with
  | nil => exact coherent
  | cons request rest ih => exact ih (coherent.step request)

theorem Coherent.refused (coherent : reader.Coherent contents base) {request : ReaderRequest}
    {error : LoadError} {left : Reader} (ended : request.run reader = .error error left) :
    left = reader := by
  rcases coherent.run request with ⟨answer, other, accepted, _⟩ | ⟨error, refused⟩
  · rw [accepted] at ended
    cases ended
  · rw [refused] at ended
    cases ended
    rfl

theorem Coherent.read_eq_ok (coherent : reader.Coherent contents base) {request : ReadRequest}
    {answer : ReaderAnswer} {left : Reader} :
    request.run reader = .ok answer left ↔
      (reader.position + request.size ≤ reader.length ∧ request.HasRoom) ∧
        request.Answers ((contents.drop (base + reader.position)).take request.size) answer ∧
        left = .over contents base reader.phase (reader.position + request.size) := by
  have same := coherent.eq_over
  generalize reader.phase = phase, reader.position = position at same ⊢
  subst same
  by_cases granted : position + request.size ≤ contents.length - base ∧ request.HasRoom
  · have answered : request.Answers (Load.bytesAt contents base position request.size) answer ↔ _ :=
      ReadRequest.answers_iff (Load.length_bytesAt granted.1)
    rw [request.run_accepted granted.2 granted.1]
    constructor
    · intro ended
      cases ended
      exact ⟨granted, answered.mpr rfl, rfl⟩
    · intro ended
      rw [answered.mp ended.2.1, ended.2.2]
  · rcases request.run_refused phase granted with ⟨error, ended⟩
    rw [ended]
    constructor
    · intro impossible
      cases impossible
    · intro impossible
      exact absurd impossible.1 granted

theorem Coherent.exists_read (coherent : reader.Coherent contents base) (request : ReadRequest) :
    (∃ answer left, request.run reader = .ok answer left) ↔
      reader.position + request.size ≤ reader.length ∧ request.HasRoom := by
  constructor
  · intro ended
    rcases ended with ⟨answer, left, ended⟩
    exact (coherent.read_eq_ok.mp ended).1
  · intro granted
    have whole : ((contents.drop (base + reader.position)).take request.size).length =
        request.size := by
      have inside := coherent.length ▸ granted.1
      exact Load.length_bytesAt inside
    exact ⟨_, _, coherent.read_eq_ok.mpr ⟨granted, (ReadRequest.answers_iff whole).mpr rfl, rfl⟩⟩

end Reader

/-- A reader that has been opened over bytes in memory knows at every time where it and its stream
stand.  It goes exactly where it is told, if that is a place of the module, and it reads exactly the
bytes behind it, if there are as many and room is granted for them, which is always so where there
is room for the whole module.  What it refuses leaves it and its stream as they were. -/
theorem reader_stays_coherent (inside : base ≤ contents.length) :
    Reader.open? (.ofBytes contents) base = .ok (.over contents base .header 0) ∧
    ∀ requests,
      let reader := (Reader.over contents base .header 0).after requests
      reader.Coherent contents base ∧
      (∀ target, (∃ place left, Load.seek target reader = .ok place left) ↔
        0 ≤ reader.destination target ∧ reader.destination target ≤ reader.length) ∧
      (∀ target place left, Load.seek target reader = .ok place left →
        reader.destination target = place ∧ left = .over contents base reader.phase place) ∧
      (∀ request : ReadRequest, (∃ answer left, request.run reader = .ok answer left) ↔
        reader.position + request.size ≤ reader.length ∧ request.HasRoom) ∧
      ((∀ count ≤ contents.length, Memory.grants count = true) → ∀ request : ReadRequest,
        (∃ answer left, request.run reader = .ok answer left) ↔
          reader.position + request.size ≤ reader.length) ∧
      (∀ (request : ReadRequest) answer left, request.run reader = .ok answer left →
        request.Answers ((contents.drop (base + reader.position)).take request.size) answer ∧
          left = .over contents base reader.phase (reader.position + request.size)) ∧
      ∀ (request : ReaderRequest) error left, request.run reader = .error error left →
        left = reader := by
  refine ⟨Reader.open?_ofBytes inside, fun requests => ?_⟩
  intro reader
  have coherent : reader.Coherent contents base :=
    (Reader.coherent_over (Nat.zero_le _)).after requests
  refine ⟨coherent, coherent.exists_seek, ?_, coherent.exists_read, ?_, ?_,
    fun _ _ _ => coherent.refused⟩
  · intro target place left moved
    have there := coherent.seek_eq_ok.mp moved
    exact ⟨there.1.1, there.2⟩
  · intro roomy request
    rw [coherent.exists_read request, and_iff_left_iff_imp]
    intro fits
    have known : reader.position + request.size ≤ contents.length - base := coherent.length ▸ fits
    exact request.hasRoom_of_fits roomy known
  · intro request answer left ended
    exact (coherent.read_eq_ok.mp ended).2

end Coherence

/-- A module of six bytes stands behind two others.  Reading two words after one byte fails, and a
seek to where the reader stands leaves the stream alone; what it reads next is right all the same,
whichever way it is asked for it. -/
theorem reader_stays_coherent_after_refusal :
    let contents : List UInt8 := [1, 2, 3, 0x41, 0x42, 0, 0x43, 5]
    let requests : List ReaderRequest :=
      [.read (.bytes 1), .read (.words 2), .seek (.current 0), .seek (.fromEnd 1)]
    let reader := (Reader.over contents 2 .header 0).after requests
    2 ≤ contents.length ∧ reader.Coherent contents 2 ∧ reader.position = 1 ∧
      ReadRequest.run (.bytes 2) reader =
        .ok (.bytes [0x41, 0x42]) (.over contents 2 .header 3) ∧
      ReadRequest.run .word reader = .ok (.word 0x43004241) (.over contents 2 .header 5) ∧
      ReadRequest.run (.words 1) reader = .ok (.words [0x43004241]) (.over contents 2 .header 5) ∧
      ReadRequest.run (.name 4) reader = .ok (.name "AB") (.over contents 2 .header 5) := by
  intro contents requests reader
  have inside : 2 ≤ contents.length := by decide
  rcases (reader_stays_coherent inside).2 requests with
    ⟨coherent, _, _, _, granted, exactly, _⟩
  have stands : reader.position = 1 := by decide +kernel
  have named : reader.phase = .header := by decide +kernel
  have roomy : ∀ count ≤ contents.length, Memory.grants count = true := by decide
  have read (request : ReadRequest) (fits : request.size ≤ 5) :
      request.run reader = .ok (request.answer ((contents.drop 3).take request.size))
        (.over contents 2 .header (1 + request.size)) := by
    have fits' : reader.position + request.size ≤ reader.length := by
      rw [stands, coherent.length]
      change 1 + request.size ≤ 6
      omega
    rcases (granted roomy request).mpr fits' with ⟨answer, left, ended⟩
    rcases exactly _ _ _ ended with ⟨answers, moved⟩
    rw [stands] at answers moved
    have whole : ((contents.drop (2 + 1)).take request.size).length = request.size :=
      List.length_take_of_le fits
    rw [ended, (ReadRequest.answers_iff whole).mp answers, moved, named]
  refine ⟨inside, coherent, stands, read (.bytes 2) (by decide), read .word (by decide),
    read (.words 1) (by decide), ?_⟩
  have name : (ReadRequest.name 4).answer [0x41, 0x42, 0, 0x43] = .name "AB" := by decide +kernel
  rw [read (.name 4) (by decide), ← name]
  rfl

end CompiledModule
