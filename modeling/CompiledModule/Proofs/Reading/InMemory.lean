import CompiledModule.Proofs.TwoRuns
import CompiledModule.Section

namespace CompiledModule

/-!
# Reading from memory

A stream over bytes in memory refuses nothing and has all the bytes that it reports.  A reader over
such a stream is known by four things: the bytes, where the module begins in them, where in the
module it stands, and its phase.  Whatever is done with it, it stays a reader over the same module,
inside the module; only where it stands can change.

Two properties of actions are built on this.  An action is steady if it keeps a reader inside its
module.  It is placeless if, moreover, what it comes to does not depend on where the reader stood
before.  Reading a section is placeless as soon as reading its entries is steady, because a section
without entries is not looked at, and every other one begins with a move to its own place.
-/

def Reader.over (contents : List UInt8) (base : Nat) (phase : Phase) (position : Nat) : Reader where
  stream := { Stream.ofBytes contents with cursor := base + position }
  base
  length := contents.length - base
  position
  phase

/-- The reader is one over this module, and stands inside it or right behind it. -/
def Reader.Inside (contents : List UInt8) (base : Nat) (phase : Phase) (reader : Reader) : Prop :=
  ∃ position ≤ contents.length - base, reader = .over contents base phase position

/-- One reader inside a module, seen by two runs. -/
def Reader.Same (contents : List UInt8) (base : Nat) (phase : Phase) (left right : Reader) :
    Prop :=
  left = right ∧ left.Inside contents base phase

def Reader.Kindred (contents : List UInt8) (base : Nat) (phase : Phase) (left right : Reader) :
    Prop :=
  left.Inside contents base phase ∧ right.Inside contents base phase

/-- The action keeps a reader inside its module. -/
def Load.Steady (action : Load α) : Prop :=
  ∀ contents base phase, Coupled noExcuse (Reader.Same contents base phase) Eq action action

/-- What the action comes to in a phase does not depend on where the reader stands. -/
def Load.Placeless (phase : Phase) (action : Load α) : Prop :=
  ∀ contents base, Coupled noExcuse (Reader.Kindred contents base phase) Eq action action

variable {contents : List UInt8} {base position : Nat} {phase : Phase}

theorem Reader.open?_ofBytes (inside : base ≤ contents.length) :
    Reader.open? (.ofBytes contents) base = .ok (.over contents base .header 0) := by
  unfold Reader.open?
  have fits : ¬ (contents.length < base) := Nat.not_lt.mpr inside
  change (if contents.length < base then _ else _ : Except LoadError Reader) = _
  rw [if_neg fits]
  rfl

theorem Reader.open?_behind (outside : ¬ base ≤ contents.length) :
    Reader.open? (.ofBytes contents) base = .error (.truncated .header base 0 contents.length) := by
  unfold Reader.open?
  change (if contents.length < base then _ else _ : Except LoadError Reader) = _
  rw [if_pos (Nat.lt_of_not_le outside)]
  rfl

/-! ## Single requests -/

namespace Load

theorem moveTo_over (place : Nat) :
    moveTo place (.over contents base phase position) =
      .ok place (.over contents base phase place) := by
  unfold moveTo
  by_cases there : place = position
  · subst there
    exact if_pos rfl
  · exact if_neg there

/-- Where the reader stands plays no part when it is moved to a place of the module. -/
theorem seek_start_over (offset : UInt32) :
    seek (.start offset) (.over contents base phase position) =
      if offset.toNat ≤ contents.length - base then
        .ok offset.toNat (.over contents base phase offset.toNat)
      else
        .error (.io phase (.seekOutside (.start offset) (contents.length - base)))
          (.over contents base phase position) := by
  rw [seek_start_eq, moveTo_over]
  rfl

theorem ensure_over (count : Nat) :
    ensure count (.over contents base phase position) =
      if position + count ≤ contents.length - base then
        .ok () (.over contents base phase position)
      else
        .error (.truncated phase position count (contents.length - base))
          (.over contents base phase position) :=
  ensure_eq count _

theorem seek_inside {offset : UInt32} (inside : offset.toNat ≤ contents.length - base) :
    seek (.start offset) (.over contents base phase position) =
      .ok offset.toNat (.over contents base phase offset.toNat) := by
  rw [seek_start_over, if_pos inside]

theorem seek_outside {offset : UInt32} (outside : ¬ offset.toNat ≤ contents.length - base) :
    seek (.start offset) (.over contents base phase position) =
      .error (.io phase (.seekOutside (.start offset) (contents.length - base)))
        (.over contents base phase position) := by
  rw [seek_start_over, if_neg outside]

theorem ensure_inside {count : Nat} (fits : position + count ≤ contents.length - base) :
    ensure count (.over contents base phase position) =
      .ok () (.over contents base phase position) := by
  rw [ensure_over, if_pos fits]

theorem ensure_short {count : Nat} (short : ¬ position + count ≤ contents.length - base) :
    ensure count (.over contents base phase position) =
      .error (.truncated phase position count (contents.length - base))
        (.over contents base phase position) := by
  rw [ensure_over, if_neg short]

def bytesAt (contents : List UInt8) (base position count : Nat) : List UInt8 :=
  (contents.drop (base + position)).take count

theorem length_bytesAt {count : Nat} (fits : position + count ≤ contents.length - base) :
    (bytesAt contents base position count).length = count := by
  unfold bytesAt
  rw [List.length_take, List.length_drop]
  omega

theorem take_over {count : Nat} (fits : position + count ≤ contents.length - base) :
    take count (.over contents base phase position) =
      .ok ⟨bytesAt contents base position count, length_bytesAt fits⟩
        (.over contents base phase (position + count)) := by
  have here : Stream.next { Stream.ofBytes contents with cursor := base + position } count =
      bytesAt contents base position count := Stream.next_eq _ _
  have exact' : (Stream.next { Stream.ofBytes contents with cursor := base + position }
      count).length = count := by
    rw [here]
    exact length_bytesAt fits
  have read : Stream.read count { Stream.ofBytes contents with cursor := base + position } =
      .ok ⟨bytesAt contents base position count, length_bytesAt fits⟩
        { Stream.ofBytes contents with cursor := base + (position + count) } := by
    rw [Stream.read_of_granted (Stream.breakOff?_sound rfl count), dif_pos exact']
    simp only [here, Nat.add_assoc]
  have stands : (Reader.over contents base phase position).stream =
      { Stream.ofBytes contents with cursor := base + position } := rfl
  unfold take
  rw [stands, read]
  rfl

theorem fixed_over (count : Nat) :
    fixed count (.over contents base phase position) =
      if fits : position + count ≤ contents.length - base then
        .ok ⟨bytesAt contents base position count, length_bytesAt fits⟩
          (.over contents base phase (position + count))
      else
        .error (.truncated phase position count (contents.length - base))
          (.over contents base phase position) := by
  rw [fixed]
  by_cases fits : position + count ≤ contents.length - base
  · rw [run_bind_of_ok (ensure_inside fits), dif_pos fits]
    exact take_over fits
  · rw [run_bind_of_error (ensure_short fits), dif_neg fits]

theorem fixed_inside {count : Nat} (fits : position + count ≤ contents.length - base) :
    fixed count (.over contents base phase position) =
      .ok ⟨bytesAt contents base position count, length_bytesAt fits⟩
        (.over contents base phase (position + count)) := by
  rw [fixed_over, dif_pos fits]

theorem fixed_short {count : Nat} (short : ¬ position + count ≤ contents.length - base) :
    fixed count (.over contents base phase position) =
      .error (.truncated phase position count (contents.length - base))
        (.over contents base phase position) := by
  rw [fixed_over, dif_neg short]

theorem record_inside {format : Record α}
    (fits : position + format.size ≤ contents.length - base) :
    record format (.over contents base phase position) =
      .ok (format.decode ⟨bytesAt contents base position format.size, length_bytesAt fits⟩)
        (.over contents base phase (position + format.size)) :=
  run_bind_of_ok (fixed_inside fits)

theorem record_short {format : Record α}
    (short : ¬ position + format.size ≤ contents.length - base) :
    record format (.over contents base phase position) =
      .error (.truncated phase position format.size (contents.length - base))
        (.over contents base phase position) :=
  run_bind_of_error (fixed_short short)

section Runs

variable [Memory]

/-- Bytes without room for them are not read. -/
theorem bytes_cramped {count : Nat} (cramped : ¬ Memory.grants count = true) (reader : Reader) :
    ∃ error, bytes count reader = .error error reader := by
  rw [bytes]
  by_cases fits : reader.position + count ≤ reader.length
  · have ensured : ensure count reader = .ok () reader := by rw [ensure_eq, if_pos fits]
    rw [run_bind_of_ok ensured]
    have refused : ¬ Memory.grants (count * Memory.cellSize .byte) = true := by
      rwa [Memory.cellSize_byte, Nat.mul_one]
    have failed := allocate_eq .byte count reader
    rw [if_neg refused] at failed
    exact ⟨_, run_bind_of_error failed⟩
  · have short := ensure_eq count reader
    rw [if_neg fits] at short
    exact ⟨_, run_bind_of_error short⟩

theorem lt_sizeLimit_of_grants {count : Nat} (granted : Memory.grants count = true) :
    count < sizeLimit :=
  Nat.lt_trans (Memory.lt_of_grants count granted) (by decide)

/-- Words take as much room as the bytes that they are taken out of. -/
theorem words_eq {count : Nat} (small : count * 4 < sizeLimit) :
    words count = bytes (count * 4) >>= fun bytes => pure (splitWords count bytes) := by
  have unfolded : words count = bytes (count * 4) >>= fun stored =>
      allocate .word count >>= fun _ => pure (splitWords count stored) :=
    if_neg (Nat.not_le.mpr small)
  rw [unfolded]
  by_cases granted : Memory.grants (count * 4) = true
  · rw [allocate_words granted]
    rfl
  · funext reader
    rcases bytes_cramped granted reader with ⟨error, failed⟩
    rw [run_bind_of_error failed, run_bind_of_error failed]

end Runs

/-! ## Steady actions -/

namespace Steady

theorem pure (value : α) : Steady (pure value) :=
  fun _ _ _ => Coupled.pure rfl

theorem throw (error : LoadError) : Steady (throw error : Load α) :=
  fun _ _ _ => Coupled.throw error

theorem bind {action : Load α} {next : α → Load β} (first : Steady action)
    (rest : ∀ value, Steady (next value)) : Steady (action >>= next) :=
  fun contents base phase => (first contents base phase).bind_same fun value =>
    rest value contents base phase

/-- Nothing comes after an error. -/
theorem throw_bind (error : LoadError) (next : α → Load β) :
    Steady ((MonadExcept.throw error : Load α) >>= next) :=
  throw error

/-- An action is steady if it is so wherever a reader may stand. -/
theorem of_over {action : Load α}
    (ends : ∀ contents base phase position, position ≤ contents.length - base →
      (leftBy (action (.over contents base phase position))).Inside contents base phase) :
    Steady action := by
  rintro contents base phase _ _ ⟨rfl, position, inside, rfl⟩
  have after := ends contents base phase position inside
  revert after
  cases action (.over contents base phase position) with
  | ok value reader =>
    intro after
    exact ⟨rfl, rfl, after⟩
  | error error reader =>
    intro after
    exact Or.inl ⟨rfl, rfl, after⟩

theorem get : Steady get :=
  of_over fun _ _ _ position inside => ⟨position, inside, rfl⟩

theorem truncated (count : Nat) : Steady (truncated count : Load α) :=
  of_over fun _ _ _ position inside => ⟨position, inside, rfl⟩

theorem ensure (count : Nat) : Steady (ensure count) := by
  apply of_over
  intro contents base phase position inside
  rw [ensure_over]
  split <;> exact ⟨position, inside, rfl⟩

theorem fixed (count : Nat) : Steady (fixed count) := by
  apply of_over
  intro contents base phase position inside
  rw [fixed_over]
  split
  · rename_i fits
    exact ⟨position + count, fits, rfl⟩
  · exact ⟨position, inside, rfl⟩

theorem record (format : Record α) : Steady (record format) :=
  (fixed format.size).bind fun _ => pure _

theorem word : Steady word :=
  (fixed 4).bind fun _ => pure _

theorem times {action : Load α} (steady : Steady action) (count : Nat) :
    Steady (times action count) := by
  induction count with
  | zero => exact pure []
  | succ count ih => exact steady.bind fun _ => ih.bind fun _ => pure _

variable [Memory]

theorem allocate (cell : Cell) (count : Nat) : Steady (allocate cell count) := by
  apply of_over
  intro contents base phase position inside
  rw [allocate_eq]
  split <;> exact ⟨position, inside, rfl⟩

theorem bytes (count : Nat) : Steady (bytes count) :=
  (ensure count).bind fun _ => (allocate .byte count).bind fun _ => (fixed count).bind fun _ =>
    pure _

theorem words (count : Nat) : Steady (words count) := by
  have rest : Steady (Load.bytes (count * 4) >>= fun stored =>
      Load.allocate .word count >>= fun _ => Pure.pure (splitWords count stored)) :=
    (bytes _).bind fun _ => (allocate .word count).bind fun _ => pure _
  unfold Load.words
  split
  · exact (truncated _).bind fun _ => rest
  · exact rest

theorem name (size : Nat) : Steady (name size) :=
  (bytes size).bind fun _ => pure _

theorem reserveFor (cell : Cell) (count size : Nat) : Steady (reserveFor cell count size) :=
  (ensure _).bind fun _ => allocate cell count

end Steady

/-! ## Placeless actions -/

namespace Placeless

theorem pure (value : α) : Placeless phase (pure value) :=
  fun _ _ => Coupled.pure rfl

theorem throw (error : LoadError) : Placeless phase (throw error : Load α) :=
  fun _ _ => Coupled.throw error

theorem bind {action : Load α} {next : α → Load β} (first : Placeless phase action)
    (rest : ∀ value, Placeless phase (next value)) : Placeless phase (action >>= next) :=
  fun contents base => (first contents base).bind_same fun value => rest value contents base

theorem map (function : α → β) {action : Load α} (placeless : Placeless phase action) :
    Placeless phase (function <$> action) :=
  placeless.bind fun _ => pure _

theorem mapM {action : α → Load β} (placeless : ∀ entry, Placeless phase (action entry))
    (entries : List α) : Placeless phase (entries.mapM action) := by
  induction entries with
  | nil => exact pure []
  | cons entry rest ih =>
    rw [List.mapM_cons]
    exact (placeless entry).bind fun _ => ih.bind fun _ => pure _

/-- An action may ask for the phase; the place is not told with it. -/
theorem phase_bind (next : Phase → Load α) (placeless : Placeless phase (next phase)) :
    Placeless phase (get >>= fun reader => next reader.phase) := by
  rintro contents base _ _ ⟨⟨position, inside, rfl⟩, position', inside', rfl⟩
  exact placeless contents base _ _ ⟨⟨position, inside, rfl⟩, position', inside', rfl⟩

/-- An action that moves to a place of the module first. -/
theorem seek_bind (offset : UInt32) {next : Load α} (steady : Steady next) :
    Placeless phase (Load.seek (.start offset) >>= fun _ => next) := by
  rintro contents base _ _ ⟨⟨position, inside, rfl⟩, position', inside', rfl⟩
  by_cases there : offset.toNat ≤ contents.length - base
  · rw [run_bind_of_ok (seek_inside there), run_bind_of_ok (seek_inside there)]
    have ends := steady contents base phase _ _ ⟨rfl, offset.toNat, there, rfl⟩
    apply ends.weaken
    rintro s _ ⟨rfl, inModule⟩
    exact ⟨inModule, inModule⟩
  · rw [run_bind_of_error (seek_outside there), run_bind_of_error (seek_outside there)]
    exact Or.inl ⟨rfl, ⟨position, inside, rfl⟩, position', inside', rfl⟩

/-- A section without entries is not looked at, and the reader goes to every other one. -/
theorem entries (part : Section) {body : Nat → Load (List α)}
    (steady : ∀ count, Steady (body count)) : Placeless phase (part.entries body) := by
  unfold Section.entries
  split
  · exact pure []
  · exact seek_bind part.offset (steady _)

theorem part? (part : Section) {body : Section → Load α} (placeless : Placeless phase (body part)) :
    Placeless phase (part.part? body) := by
  unfold Section.part?
  split
  · exact pure none
  · exact placeless.map some

variable [Memory]

/-- Room is granted or refused wherever the reader stands. -/
theorem allocate (cell : Cell) (count : Nat) : Placeless phase (allocate cell count) := by
  rintro contents base _ _ ⟨⟨position, inside, rfl⟩, position', inside', rfl⟩
  have kindred : Reader.Kindred contents base phase (.over contents base phase position)
      (.over contents base phase position') := ⟨⟨position, inside, rfl⟩, position', inside', rfl⟩
  rw [allocate_eq, allocate_eq]
  split
  · exact ⟨rfl, kindred⟩
  · exact Or.inl ⟨rfl, kindred⟩

theorem bytes (part : Section) : Placeless phase part.bytes :=
  entries part Steady.bytes

theorem words (part : Section) : Placeless phase part.words :=
  entries part Steady.words

theorem table (part : Section) (cell : Cell) (size : Nat) {entry : Load α}
    (steady : Steady entry) : Placeless phase (part.table cell size entry) :=
  entries part fun count => (Steady.reserveFor cell count size).bind fun _ => steady.times count

theorem records (part : Section) (cell : Cell) (format : Record α) :
    Placeless phase (part.records cell format) :=
  table part cell _ (.record format)

end Placeless

end Load

end CompiledModule
