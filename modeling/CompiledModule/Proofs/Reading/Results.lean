import CompiledModule.LoadedModule
import CompiledModule.Proofs.Reading.Alone
import CompiledModule.Proofs.Safety.Indexes

namespace CompiledModule

/-!
# What a reading gives

A load that succeeds has passed every check on its way, so its results fit what was asked for.  A
section has as many entries as its count says, a block of bytes is as long as its size, a part is
absent exactly when its section is empty, and a signature has a byte for each parameter.

`Gives` states a property of all results of an action.  It asks nothing of the reader: the stream
may refuse requests or have fewer bytes than it reports, because then there is no result to speak of.
-/

namespace Load

/-- Every result that the action has is one with this property. -/
structure Gives (action : Load α) (property : α → Prop) : Prop where
  holds : ∀ {reader value after}, action reader = .ok value after → property value

variable {property : α → Prop} {result : β → Prop}

namespace Gives

theorem weaken {weaker : α → Prop} {action : Load α} (gives : Gives action property)
    (implies : ∀ value, property value → weaker value) : Gives action weaker :=
  ⟨fun ended => implies _ (gives.holds ended)⟩

theorem anything (action : Load α) : Gives action fun _ => True :=
  ⟨fun _ => trivial⟩

theorem pure {value : α} (holds : property value) : Gives (pure value) property := by
  constructor
  intro reader found after ended
  cases ended
  exact holds

theorem bind {action : Load α} {next : α → Load β} (first : Gives action property)
    (rest : ∀ value, property value → Gives (next value) result) :
    Gives (action >>= next) result := by
  constructor
  intro reader found after ended
  rcases run_bind_eq_ok.mp ended with ⟨value, middle, began, went⟩
  exact (rest value (first.holds began)).holds went

/-- What the first action gives plays no part. -/
theorem skip {action : Load α} {next : α → Load β} (rest : ∀ value, Gives (next value) result) :
    Gives (action >>= next) result :=
  (anything action).bind fun value _ => rest value

theorem map {action : Load α} {function : α → β}
    (gives : Gives action fun value => result (function value)) :
    Gives (function <$> action) result :=
  gives.bind fun _ holds => pure holds

/-- After an error there is no result, so anything may be said of it. -/
theorem throw (error : LoadError) : Gives (throw error) property := by
  constructor
  intro reader found after ended
  cases ended

theorem throw_bind (error : LoadError) (next : α → Load β) :
    Gives ((MonadExcept.throw error : Load α) >>= next) result := by
  constructor
  intro reader found after ended
  cases ended

/-- What an action gives with a reader of its own. -/
theorem alone {contents : List UInt8} {base : Nat} {phase : Phase} {action : Load α} {value : α}
    (gives : Gives action property) (read : Load.alone contents base phase action = .ok value) :
    property value := by
  rcases bind_eq_ok.mp read with ⟨reader, _, came⟩
  cases ended : action { reader with phase } with
  | ok found after =>
    rw [ended] at came
    cases came
    exact gives.holds ended
  | error error after =>
    rw [ended] at came
    cases came

/-! ## Sections -/

/-- So many entries, and each of them with a property. -/
structure Entries (count : Nat) (property : α → Prop) (entries : List α) : Prop where
  length : entries.length = count
  each : ∀ entry ∈ entries, property entry

theorem times {action : Load α} (gives : Gives action property) (count : Nat) :
    Gives (times action count) (Entries count property) := by
  induction count with
  | zero => exact pure ⟨rfl, fun _ impossible => absurd impossible List.not_mem_nil⟩
  | succ count ih =>
    apply gives.bind
    intro first holds
    apply ih.bind
    intro rest found
    exact pure ⟨congrArg (· + 1) found.length, List.forall_mem_cons.mpr ⟨holds, found.each⟩⟩

/-- A section without entries gives none of them, and has none. -/
theorem entries {body : Nat → Load (List α)} (part : Section)
    (gives : ∀ count, Gives (body count) (Entries count property)) :
    Gives (part.entries body) (Entries part.count.toNat property) := by
  rw [Section.entries]
  by_cases none : part.count = 0
  · rw [if_pos none, none]
    exact pure ⟨rfl, fun _ impossible => absurd impossible List.not_mem_nil⟩
  · rw [if_neg none]
    exact skip fun _ => gives _

/-- A part that may be absent: it is there exactly when its section has entries. -/
structure Presence (part : Section) (property : α → Prop) (found : Option α) : Prop where
  absent : found = none ↔ part.count = 0
  present : ∀ value, found = some value → property value

theorem part? {body : Section → Load α} (part : Section) (gives : Gives (body part) property) :
    Gives (part.part? body) (Presence part property) := by
  rw [Section.part?]
  by_cases none : part.count = 0
  · rw [if_pos none]
    exact pure ⟨⟨fun _ => none, fun _ => rfl⟩, fun _ impossible => by cases impossible⟩
  · rw [if_neg none]
    apply map
    apply gives.weaken
    intro value holds
    constructor
    · constructor
      · intro impossible
        cases impossible
      · intro empty
        exact absurd empty none
    · intro found same
      cases same
      exact holds

theorem mapM {action : α → Load β} (entries : List α) :
    Gives (entries.mapM action) fun found => found.length = entries.length := by
  induction entries with
  | nil => exact pure rfl
  | cons entry rest ih =>
    rw [List.mapM_cons]
    apply skip
    intro first
    apply ih.bind
    intro others length
    exact pure (congrArg (· + 1) length)

/-! ## Runs of values -/

variable [Memory]

theorem bytes (count : Nat) : Gives (bytes count) fun found => found.length = count := by
  apply skip
  intro _
  apply skip
  intro _
  apply skip
  intro found
  exact pure found.property

theorem words (count : Nat) : Gives (words count) fun found => found.length = count := by
  have split : Gives (Load.bytes (count * 4) >>= fun stored => allocate .word count >>= fun _ =>
      Pure.pure (splitWords count stored)) fun found => found.length = count :=
    skip fun stored => skip fun _ => pure (length_splitWords count stored)
  rw [Load.words]
  by_cases large : sizeLimit ≤ count * 4
  · rw [if_pos large]
    exact skip fun _ => split
  · rw [if_neg large]
    exact split

theorem sectionBytes (part : Section) :
    Gives part.bytes fun found => found.length = part.count.toNat :=
  (entries part fun count => (bytes count).weaken fun _ length =>
    (⟨length, fun _ _ => trivial⟩ : Entries count (fun _ => True) _)).weaken fun _ found =>
      found.length

theorem sectionWords (part : Section) :
    Gives part.words fun found => found.length = part.count.toNat :=
  (entries part fun count => (words count).weaken fun _ length =>
    (⟨length, fun _ _ => trivial⟩ : Entries count (fun _ => True) _)).weaken fun _ found =>
      found.length

theorem table {entry : Load α} (part : Section) (cell : Cell) (size : Nat)
    (gives : Gives entry property) :
    Gives (part.table cell size entry) (Entries part.count.toNat property) :=
  entries part fun count => skip fun _ => gives.times count

theorem records (part : Section) (cell : Cell) (format : Record α) :
    Gives (part.records cell format) fun found => found.length = part.count.toNat :=
  (table part cell format.size (anything _)).weaken fun _ found => found.length

end Gives

end Load

/-! ## The sections of a module -/

section Sections

open Load

/-- A call as it is read: nothing is bound to it yet, and its signature fits. -/
structure SystemCall.Fresh (call : SystemCall) : Prop where
  unbound : call.binding = none
  signature : call.signature.length = call.params.toNat

/-- Two fields were parsed one after another only if the second one was parsed somewhere. -/
theorem FieldParser.parsed_next {first : FieldParser α} {next : α → FieldParser β}
    {input : List UInt8} {found : β × List UInt8} (parsed : (first >>= next) input = some found) :
    ∃ value rest, next value rest = some found := by
  rcases Option.bind_eq_some_iff.mp parsed with ⟨⟨value, rest⟩, _, goesOn⟩
  exact ⟨value, rest, goesOn⟩

/-- The fixed part of a call leaves its binding open. -/
theorem SystemCall.binding_decode (bytes : Bytes format.size) :
    (format.decode bytes).binding = none := by
  rcases FieldParser.parsed_next (format.parser_eq_decode bytes) with ⟨nameCode, _, parsed⟩
  rcases FieldParser.parsed_next parsed with ⟨kind, _, parsed⟩
  rcases FieldParser.parsed_next parsed with ⟨params, _, parsed⟩
  rcases FieldParser.parsed_next parsed with ⟨callCode, _, parsed⟩
  have same := (Prod.mk.inj (Option.some.inj parsed)).1
  rw [← same]

/-- As many starts and as many bytes of text as the header says, and no start behind the text. -/
structure StringPool.Fits (strings text : Section) (pool : StringPool) : Prop where
  size : pool.size = strings.count.toNat
  textSize : pool.text.size = text.count.toNat
  inRange : pool.InRange

variable [Memory]

theorem EmbeddedFile.readTable_gives (part : Section) :
    Gives (readTable part) fun files => files.length = part.count.toNat :=
  (Gives.table part _ _ (Gives.anything _)).weaken fun _ found => found.length

theorem SourceListing.readPaths_gives (part : Section) :
    Gives (readPaths part) fun paths => paths.length = part.count.toNat :=
  (Gives.table part _ _ (Gives.anything _)).weaken fun _ found => found.length

theorem VariableSpace.readAll_gives (directory : Section) :
    Gives (readAll directory) fun spaces => spaces.length = directory.count.toNat :=
  (Gives.records directory _ entryFormat).bind fun tables length => Gives.skip fun _ =>
    (Gives.mapM tables).weaken fun _ same => same.trans length

/-- The table of names is the table of as many entries as the section has. -/
theorem IdTable.read_gives (part : Section) :
    Gives (read part) fun ids => ∃ entries : List IdEntry,
      entries.length = part.count.toNat ∧ ids = ofList entries :=
  (Gives.records part _ format).bind fun entries length =>
    Gives.pure ⟨entries, length, rfl⟩

theorem SystemCall.readTable_gives (part : Section) :
    Gives (readTable part) (Gives.Entries part.count.toNat Fresh) := by
  have unbound : Gives (Load.record format) fun call => call.binding = none :=
    Gives.skip fun bytes => Gives.pure (binding_decode bytes)
  apply Gives.table
  apply unbound.bind
  intro call unbound
  apply (Gives.bytes _).bind
  intro signature length
  exact Gives.pure ⟨unbound, length⟩

theorem StringPool.read_gives (strings text : Section) :
    Gives (read strings text) (Fits strings text) := by
  apply (Gives.sectionWords strings).bind
  intro offsets size
  apply (Gives.sectionBytes text).bind
  intro bytes textSize
  cases past : firstPast bytes.length 0 offsets with
  | some found => exact Gives.skip fun _ => Gives.throw _
  | none => exact Gives.pure ⟨size, textSize, inside_of_firstPast past⟩

/-- The code is absent when its section is empty, and otherwise has a word for each four bytes. -/
theorem Procedure.readCode_gives (index : Nat) (code : Section) :
    Gives (readCode index code)
      (Gives.Presence code fun words => words.length * 4 = code.count.toNat) := by
  rw [readCode]
  by_cases whole : code.count % 4 = 0
  · rw [if_pos whole]
    apply Gives.part? code
    apply (Gives.sectionWords _).weaken
    intro words length
    have quarters : code.count.toNat % 4 = 0 := by
      have := congrArg UInt32.toNat whole
      rwa [UInt32.toNat_mod] at this
    rw [length, UInt32.toNat_div]
    exact Nat.div_mul_cancel (Nat.dvd_of_mod_eq_zero quarters)
  · rw [if_neg whole]
    exact Gives.skip fun _ => Gives.throw_bind _ _

end Sections

end CompiledModule
