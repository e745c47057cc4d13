import CompiledModule.Proofs.Layout.Acceptance

namespace CompiledModule

/-!
# Where the bytes of a struct lie

The size of a struct is the sum of the sizes of its members, and where the members lie is what their
offsets say.  A member's offset is meant to lie inside its struct, but nothing compares the two: a
walk asks of the span of a run of structs and of every run of scalars that they end inside the
block.  A member may therefore lie behind its struct, and to reverse it changes bytes that do not
belong to the struct.

Whether this happens is a matter of the layout alone.  What a type expands to at one offset is what
it expands to at any other, only moved, so an array of structs is a row of copies of one struct.
They all keep to their places, or none of them does, whatever the block is, wherever the array
stands in it and whatever has been walked before; and they all do if every member ends inside its
struct.
-/

variable {ε σ : Type} [LayoutFailure ε] {spaces : List VariableSpace} {type : TypeDescriptor}

/-! ## Moving an expansion -/

def ScalarRun.shift (distance : Nat) (run : ScalarRun) : ScalarRun :=
  { run with offset := distance + run.offset }

def WalkEvent.shift (distance : Nat) : WalkEvent → WalkEvent
  | .run offset width count => .run (distance + offset) width count
  | .span offset length => .span (distance + offset) length

theorem ScalarRun.finish_shift (distance : Nat) (run : ScalarRun) :
    (run.shift distance).finish = distance + run.finish :=
  Nat.add_assoc distance run.offset run.length

theorem runsOf_shift (distance : Nat) (events : List WalkEvent) :
    runsOf (events.map (WalkEvent.shift distance)) =
      (runsOf events).map (ScalarRun.shift distance) := by
  unfold runsOf
  rw [List.filterMap_map, List.map_filterMap]
  congr 1
  funext event
  cases event <;> rfl

theorem runsOf_flatMap {α : Type} (pieces : α → List WalkEvent) (entries : List α) :
    runsOf (entries.flatMap pieces) = entries.flatMap fun entry => runsOf (pieces entry) :=
  List.filterMap_flatMap

section Expands

variable {offset size one : Nat} {events others : List WalkEvent}

theorem instanceEvents_shift (inner : Nat → TypeDescriptor → List WalkEvent)
    (parts : VariableSpace) (size count offset distance : Nat) :
    (instanceEvents inner parts size count offset).map (WalkEvent.shift distance) =
      instanceEvents (fun place part => (inner (place - distance) part).map (.shift distance)) parts
        size count (distance + offset) := by
  unfold instanceEvents memberEvents
  simp only [List.map_flatMap]
  apply List.flatMap_congr
  intro number _
  apply List.flatMap_congr
  intro part _
  have back : distance + offset + number * size + part.offset.toNat - distance =
      offset + number * size + part.offset.toNat := by
    omega
  rw [back]

/-- The expansion at another offset is the same, moved.  Each member is taken from where it was
before. -/
theorem Expands.shift (expands : Expands spaces offset type events) (distance : Nat) :
    Expands spaces (distance + offset) type (events.map (WalkEvent.shift distance)) := by
  induction expands with
  | scalars ends => exact .scalars ends
  | nothing ends empty => exact .nothing ends empty
  | @structs offset size type parts inner ends available single filled _ ih =>
    rw [List.map_cons, instanceEvents_shift]
    apply Expands.structs _ ends available single filled
    intro number below part member
    have moved := ih number below part member
    have place : distance + offset + number * size + part.offset.toNat =
        distance + (offset + number * size + part.offset.toNat) := by
      omega
    rw [place, Nat.add_sub_cancel_left]
    exact moved

/-- What a struct expands to at an offset is what it expands to at 0, moved there. -/
theorem Expands.runsOf_eq (own : Expands spaces 0 type events)
    (expands : Expands spaces offset type others) :
    runsOf others = (runsOf events).map (ScalarRun.shift offset) := by
  rw [expands.unique (own.shift offset), runsOf_shift]

/-- The runs of the struct that `number` structs of `size` bytes stand before, in a run of structs
that begins at `offset`.  At 0 a struct expands to `own`. -/
def structRuns (own : List WalkEvent) (size offset number : Nat) : List ScalarRun :=
  (runsOf own).map (ScalarRun.shift (offset + number * size))

/-- A run of structs has the runs of one struct, once for each of them. -/
theorem Expands.instances (ends : type.element? = some .struct)
    (single : HasSize spaces (.ofSpace type.members) one)
    (own : Expands spaces 0 (.ofSpace type.members) events)
    (expands : Expands spaces offset type others) :
    runsOf others = (List.range type.elementCount).flatMap (structRuns events one offset) := by
  cases expands with
  | scalars ends' =>
    rw [ends] at ends'
    cases ends'
  | nothing _ empty =>
    rcases Nat.mul_eq_zero.mp (empty.eq_mul ends single).symm with none | none
    · rw [none]
      rfl
    · rw [none] at single
      rw [own.unique (.nothing rfl single)]
      exact (List.flatMap_eq_nil_iff.mpr fun _ _ => rfl).symm
  | @structs _ _ _ parts inner _ available single' filled members =>
    cases single.unique single'
    change runsOf (instanceEvents _ _ _ _ _) = _
    rw [instanceEvents, runsOf_flatMap]
    apply List.flatMap_congr
    intro number below
    have struct : Expands spaces (offset + number * one) (.ofSpace type.members)
        (.span (offset + number * one) (1 * one) ::
          instanceEvents inner parts one 1 (offset + number * one)) := by
      have ends' : (TypeDescriptor.ofSpace type.members).element? = some .struct := rfl
      apply Expands.structs inner ends' available single
      · rw [elementCount_ofSpace, Nat.one_mul]
        exact Nat.pos_of_mul_pos_left filled
      · intro first only part member
        cases Nat.lt_one_iff.mp only
        rw [Nat.zero_mul, Nat.add_zero]
        exact members number (List.mem_range.mp below) part member
    rw [structRuns, ← own.runsOf_eq struct]
    simp [instanceEvents, runsOf]

end Expands

/-! ## Keeping to a place -/

/-- All of the runs lie in the `length` bytes from `start` on. -/
def StayIn (start length : Nat) (runs : List ScalarRun) : Prop :=
  ∀ run ∈ runs, start ≤ run.offset ∧ run.finish ≤ start + length
  deriving Decidable

theorem stayIn_shift {start length : Nat} {runs : List ScalarRun} :
    StayIn start length (runs.map (ScalarRun.shift start)) ↔ StayIn 0 length runs := by
  unfold StayIn
  rw [List.forall_mem_map]
  simp only [ScalarRun.finish_shift]
  constructor
  · intro stay run member
    have stays := stay run member
    omega
  · intro stay run member
    have stays := stay run member
    have moved : (run.shift start).offset = start + run.offset := rfl
    omega

/-- Copies of some runs in a row stay in the row exactly when the runs stay in their own place: the
last copy has nothing behind it. -/
theorem stayIn_row {start one count : Nat} {own : List WalkEvent} (filled : 0 < count) :
    StayIn start (count * one) ((List.range count).flatMap (structRuns own one start)) ↔
      StayIn 0 one (runsOf own) := by
  unfold StayIn structRuns
  simp only [List.mem_flatMap, List.mem_range, List.mem_map]
  constructor
  · intro stay run member
    have last := stay (run.shift (start + (count - 1) * one))
      ⟨count - 1, Nat.sub_lt filled Nat.one_pos, run, member, rfl⟩
    have row : count * one = (count - 1) * one + one := by
      rw [← Nat.succ_mul, Nat.succ_eq_add_one, Nat.sub_add_cancel filled]
    rw [ScalarRun.finish_shift, row] at last
    omega
  · rintro stay _ ⟨number, below, run, member, rfl⟩
    have stays := stay run member
    have row : number * one + one ≤ count * one := by
      rw [← Nat.succ_mul]
      exact Nat.mul_le_mul_right one below
    have moved : (run.shift (start + number * one)).offset = start + number * one + run.offset := rfl
    rw [ScalarRun.finish_shift]
    omega

/-- Laid out at 0, the runs of one struct of the space end within its size. -/
def SelfContained (spaces : List VariableSpace) (space : UInt32) : Prop :=
  ∀ one events, HasSize spaces (.ofSpace space) one → Expands spaces 0 (.ofSpace space) events →
    StayIn 0 one (runsOf events)

/-- Every member of every struct inside the type ends inside its struct, as it is meant to. -/
def MembersInside (spaces : List VariableSpace) (type : TypeDescriptor) : Prop :=
  ∀ owner, Reaches spaces type owner → owner.element? = some .struct →
    ∀ parts, spaces[owner.members.toNat]? = some parts →
      ∀ part ∈ parts, ∀ size one, HasSize spaces part.type size →
        HasSize spaces (.ofSpace owner.members) one → part.offset.toNat + size ≤ one

theorem MembersInside.inside {part : TypeDescriptor} (inside : MembersInside spaces type)
    (contains : Contains spaces type part) : MembersInside spaces part :=
  fun owner reaches => inside owner (.head contains reaches)

/-- Where members end inside their structs, all that is shown of a value lies inside the value. -/
theorem Expands.stayIn {offset size : Nat} {events : List WalkEvent}
    (expands : Expands spaces offset type events) (has : HasSize spaces type size)
    (inside : MembersInside spaces type) : StayIn offset size (runsOf events) := by
  induction expands generalizing size with
  | @scalars offset type kind ends =>
    rintro run member
    cases List.mem_singleton.mp member
    rw [has.unique (.scalars ends), Nat.mul_comm]
    exact ⟨Nat.le_refl _, Nat.le_refl _⟩
  | nothing ends empty => exact fun _ impossible => absurd impossible List.not_mem_nil
  | @structs offset one type parts inner ends available single filled members ih =>
    cases has.eq_mul ends single
    intro run member
    change run ∈ runsOf (instanceEvents _ _ _ _ _) at member
    simp only [instanceEvents, memberEvents, runsOf_flatMap, List.mem_flatMap, List.mem_range]
      at member
    rcases member with ⟨number, below, part, among, member⟩
    have contains : Contains spaces type part.type := ⟨ends, parts, available, part, among, rfl⟩
    rcases (members number below part among).exists_hasSize with ⟨length, hasPart⟩
    have stays := ih number below part among hasPart (inside.inside contains) run member
    have ending := inside type .refl ends parts available part among length one hasPart single
    have row : number * one + one ≤ type.elementCount * one := by
      rw [← Nat.succ_mul]
      exact Nat.mul_le_mul_right one below
    omega

/-! ## What a walk has changed -/

theorem hasSize_of_typeSize {sizes after : SizeCache} {levels size : Nat}
    (sound : sizes.Sound spaces)
    (answered : typeSize (structSize spaces levels []) type sizes = .ok size after) :
    HasSize spaces type size := by
  rcases typeSize_finds (structSize_finds levels []) type sizes sound with
    ⟨outcome, found, ran, finds⟩
  rw [ran] at answered
  rcases settle_eq_ok.mp answered with ⟨rfl, rfl⟩
  rcases finds.settles.resolve_left (by simp) with ⟨deep, settled⟩
  exact hasSize_of_declared (settled deep (Nat.le_refl deep))

/-- A walk with an answer has shown the expansion of its type, and nothing of it was refused. -/
theorem Walk.shown_of_ok {visitor : Visitor ε σ} {sizes : SizeCache} {walked : Walked σ}
    {state : σ} {levels offset answer : Nat} (enters : visitor.entersStructs = true)
    (sound : sizes.Sound spaces)
    (ran : value spaces visitor levels offset type ⟨sizes, state⟩ = .ok answer walked) :
    HasSize spaces type answer ∧
      Expands spaces offset type (shown spaces visitor levels offset type ⟨sizes, state⟩) ∧
      visitor.seeAll (shown spaces visitor levels offset type ⟨sizes, state⟩) state =
        .ok () walked.state := by
  have alike := value_logged spaces visitor levels offset type sizes state
  rw [ran] at alike
  cases measuredType : typeSize (structSize spaces levels []) type sizes with
  | error error after =>
    rcases value_unmeasured visitor.logged enters sound offset measuredType (state, [])
      with ⟨events, _, shows'⟩
    exact ((shows'.logged alike).1.answered answer rfl).2.2.elim
  | ok size after =>
    rcases value_shows visitor.logged enters sound offset measuredType (state, [])
      with ⟨events, expands, shows'⟩
    have logged := (shows'.logged alike).1
    rcases logged.answered answer rfl with ⟨all, accepted, rfl, _⟩
    refine ⟨hasSize_of_typeSize sound measuredType, ?_,
      result_eq_ok.mpr ⟨accepted, logged.leaves.symm⟩⟩
    rw [← all] at expands
    exact expands

namespace BlockEditor

variable {editor left : BlockEditor} {events : List WalkEvent} {place : Nat}

/-- What an editor has accepted changes nothing outside the runs. -/
theorem seeAll_outside (seen : visitor.seeAll events editor = .ok () left)
    (outside : ∀ run ∈ runsOf events, ¬ run.Covers place) :
    left.bytes.toList[place]? = editor.bytes.toList[place]? := by
  rw [seeAll_reverses seen]
  split
  · rw [getElem?_reverseRuns (seeAll_fit seen), mirrorRuns_outside outside]
  · rfl

end BlockEditor

/-! ## Structs and their places -/

/-- The runs that are shown when one value of a block is walked. -/
def Workspace.valueRuns (spaces : List VariableSpace) (offset : Nat) (type : TypeDescriptor)
    (swap : Bool) (workspace : Workspace) : List ScalarRun :=
  runsOf (Walk.shown spaces BlockEditor.visitor nestingLimit offset type
    ⟨workspace.sizes, .ofBlock workspace.bytes swap⟩)

/-- A walk of structs with an answer has the runs of one struct once for each of them, at the place
of each, and changes nothing outside its runs.  That the runs lie in the bytes of the value, or that
those of each struct lie in its own bytes, is true exactly when there is no struct or one struct laid
out at 0 keeps to itself; and this is so where all members end inside their structs. -/
theorem usedWalker_keeps_inside_iff {sizes : SizeCache} (reached : sizes.Reachable spaces)
    (ends : type.element? = some .struct) (offset : Nat) (swap : Bool) (bytes : List UInt8)
    {answer : Nat} {left : Workspace}
    (ran : Workspace.normalize spaces offset type swap ⟨sizes, bytes⟩ = .ok answer left) :
    let runs := Workspace.valueRuns spaces offset type swap ⟨sizes, bytes⟩
    ∃ one own, HasSize spaces (.ofSpace type.members) one ∧
      Expands spaces 0 (.ofSpace type.members) own ∧
      answer = type.elementCount * one ∧
      runs = (List.range type.elementCount).flatMap (structRuns own one offset) ∧
      (StayIn offset answer runs ↔
        type.elementCount = 0 ∨ SelfContained spaces type.members) ∧
      ((∀ number < type.elementCount,
          StayIn (offset + number * one) one (structRuns own one offset number)) ↔
        type.elementCount = 0 ∨ SelfContained spaces type.members) ∧
      (MembersInside spaces type → StayIn offset answer runs) ∧
      ∀ place, (∀ run ∈ runs, ¬ run.Covers place) → left.bytes[place]? = bytes[place]? := by
  intro runs
  rcases Workspace.edit_eq swap (Walk.value spaces BlockEditor.visitor nestingLimit offset type)
    sizes bytes with ⟨outcome, leaves⟩
  change Workspace.edit _ _ _ = _ at ran
  rw [ran] at outcome leaves
  have walked := result_eq_ok.mpr ⟨outcome.symm, rfl⟩
  rcases Walk.shown_of_ok rfl reached.sound walked with ⟨has, expands, seen⟩
  have single : ∃ one, HasSize spaces (.ofSpace type.members) one := by
    cases has with
    | scalars ends' =>
      rw [ends] at ends'
      cases ends'
    | structs sizes _ available members => exact ⟨_, .ofSpace sizes available members⟩
  rcases single with ⟨one, single⟩
  rcases single.exists_expands 0 with ⟨own, ownExpands⟩
  have row : runs = _ := ownExpands.instances ends single expands
  have total := has.eq_mul ends single
  have self : SelfContained spaces type.members ↔ StayIn 0 one (runsOf own) := by
    constructor
    · exact fun contained => contained one own single ownExpands
    · intro stays one' own' single' expands'
      cases single'.unique single
      cases expands'.unique ownExpands
      exact stays
  refine ⟨one, own, single, ownExpands, total, row, ?_, ?_, expands.stayIn has, ?_⟩
  · rw [row, total]
    rcases Nat.eq_zero_or_pos type.elementCount with none | filled
    · rw [none]
      exact iff_of_true (fun _ impossible => absurd impossible List.not_mem_nil) (Or.inl rfl)
    · rw [stayIn_row filled, self]
      exact (or_iff_right (Nat.ne_of_gt filled)).symm
  · rcases Nat.eq_zero_or_pos type.elementCount with none | filled
    · rw [none]
      exact iff_of_true (fun _ impossible => absurd impossible (Nat.not_lt_zero _)) (Or.inl rfl)
    · simp only [structRuns, stayIn_shift]
      rw [self, or_iff_right (Nat.ne_of_gt filled)]
      exact ⟨fun stays => stays 0 filled, fun stays _ _ => stays⟩
  · intro place outside
    have kept := BlockEditor.seeAll_outside seen outside
    have here : left = _ := leaves
    rw [here]
    exact kept

/-- A struct of a word and a byte, twice, behind a byte that belongs to nothing. -/
theorem usedWalker_keeps_pair_inside :
    let spaces : List VariableSpace :=
      [[⟨.ofBase (.scalar .word), 0, 0, 0⟩, ⟨.ofBase (.scalar .byte), 1, 2, 0⟩]]
    let pair : TypeDescriptor := ⟨#v[⟨17, 2⟩, ⟨18, 0⟩, ⟨0, 0⟩, ⟨0, 0⟩, ⟨0, 0⟩, ⟨0, 0⟩, ⟨0, 0⟩,
      ⟨0, 0⟩], 0⟩
    Workspace.normalize spaces 1 pair true ⟨[], [0, 1, 2, 3, 4, 5, 6, 7]⟩ =
        .ok 6 ⟨[(0, 3)], [0, 2, 1, 3, 5, 4, 6, 7]⟩ ∧
      StayIn 1 6 (Workspace.valueRuns spaces 1 pair true ⟨[], [0, 1, 2, 3, 4, 5, 6, 7]⟩) ∧
      SelfContained spaces 0 := by
  intro spaces pair
  have ran : Workspace.normalize spaces 1 pair true ⟨[], [0, 1, 2, 3, 4, 5, 6, 7]⟩ =
      .ok 6 ⟨[(0, 3)], [0, 2, 1, 3, 5, 4, 6, 7]⟩ :=
    result_eq_ok.mpr (by decide +kernel)
  have stays : StayIn 1 6
      (Workspace.valueRuns spaces 1 pair true ⟨[], [0, 1, 2, 3, 4, 5, 6, 7]⟩) := by
    decide +kernel
  have ends : pair.element? = some .struct := by decide +kernel
  rcases usedWalker_keeps_inside_iff .fresh ends 1 true [0, 1, 2, 3, 4, 5, 6, 7] ran
    with ⟨one, own, -, -, -, -, exactly, -⟩
  refine ⟨ran, stays, (exactly.mp stays).resolve_left (by decide +kernel)⟩

/-- A struct whose only member, a word, lies two bytes behind it.  The walk answers that the struct
has two bytes, and reverses two others. -/
theorem usedWalker_leaves_struct :
    let spaces : List VariableSpace := [[⟨.ofBase (.scalar .word), 0, 4, 0⟩]]
    Workspace.normalize spaces 0 (.ofSpace 0) true ⟨[], [0, 1, 2, 3, 4, 5]⟩ =
        .ok 2 ⟨[(0, 2)], [0, 1, 2, 3, 5, 4]⟩ ∧
      Workspace.valueRuns spaces 0 (.ofSpace 0) true ⟨[], [0, 1, 2, 3, 4, 5]⟩ = [⟨4, 2, 1⟩] ∧
      ¬ StayIn 0 2
        (Workspace.valueRuns spaces 0 (.ofSpace 0) true ⟨[], [0, 1, 2, 3, 4, 5]⟩) := by
  refine ⟨result_eq_ok.mpr ?_, ?_, ?_⟩ <;> decide +kernel

end CompiledModule
