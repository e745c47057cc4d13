import CompiledModule.Proofs.Layout.Conversion
import CompiledModule.Proofs.Layout.Visited

namespace CompiledModule

/-!
# Which blocks are accepted

A walk of a block checks bounds, spans, offsets, levels and a budget that all variables share, and
it does so while it goes along and stops at the first check that fails.  Which blocks it accepts can
nevertheless be said without walking.  Every variable has to have a size, its structs must not nest
too deep, everything that it expands to has to end inside the block, and all variables together must
not have more bytes than four times the block, however they overlap.

An editor accepts a list of runs and spans when they end inside the block and the runs have no more
bytes together than the budget.  What is left then is that the checks of the walk itself refuse
nothing else, and that the budget charges exactly what has been measured.
-/

variable {spaces : List VariableSpace} {sizes after : SizeCache} {type : TypeDescriptor}

/-! ## What an editor accepts -/

namespace BlockEditor

variable {editor left : BlockEditor} {event : WalkEvent} {events : List WalkEvent}

/-- The editor `left` is what `editor` has become by visiting so many bytes. -/
structure Spent (editor left : BlockEditor) (visited : Nat) : Prop where
  size : left.bytes.size = editor.bytes.size
  budget : left.budget + visited = editor.budget

theorem Spent.trans {middle : BlockEditor} {visited more : Nat}
    (first : Spent editor middle visited) (second : Spent middle left more) : Spent editor left (visited + more) where
  size := second.size.trans first.size
  budget := by
    rw [← first.budget, ← second.budget]
    omega

theorem visit_eq_ok {offset width count : Nat} :
    visit offset width count editor = .ok () left ↔
      (offset + width * count < sizeLimit ∧ offset + width * count ≤ editor.bytes.size ∧
        width * count ≤ editor.budget) ∧ left = editor.accept offset width (width * count) := by
  simp only [visit]
  cases ran : editor.runLength offset width count with
  | ok length =>
    rcases runLength_eq_ok.mp ran with ⟨rfl, accepted⟩
    simp [accepted, eq_comm]
  | error error =>
    simp only [reduceCtorEq, false_iff]
    rintro ⟨accepted, -⟩
    rw [runLength_eq_ok.mpr ⟨rfl, accepted⟩] at ran
    cases ran

theorem checkSpan_eq_ok {offset length : Nat} :
    checkSpan offset length editor = .ok () left ↔
      (offset + length < sizeLimit ∧ offset + length ≤ editor.bytes.size) ∧ left = editor := by
  simp only [checkSpan]
  cases ran : editor.finish offset length with
  | ok finish =>
    rcases finish_eq_ok.mp ran with ⟨rfl, accepted⟩
    simp [accepted, eq_comm]
  | error error =>
    simp only [reduceCtorEq, false_iff]
    rintro ⟨accepted, -⟩
    rw [finish_eq_ok.mpr ⟨rfl, accepted⟩] at ran
    cases ran

theorem see_accepted (seen : visitor.see event editor = .ok () left) :
    event.finish ≤ editor.bytes.size ∧ Spent editor left (shownBytes [event]) := by
  cases event with
  | run offset width count =>
    rcases visit_eq_ok.mp seen with ⟨⟨-, inside, affordable⟩, rfl⟩
    refine ⟨inside, size_accept editor offset width _, ?_⟩
    rw [budget_accept, shownBytes_run, shownBytes_nil]
    omega
  | span offset length =>
    rcases checkSpan_eq_ok.mp seen with ⟨⟨-, inside⟩, rfl⟩
    exact ⟨inside, rfl, rfl⟩

theorem exists_see (small : editor.bytes.size < sizeLimit)
    (inside : event.finish ≤ editor.bytes.size) (affordable : shownBytes [event] ≤ editor.budget) :
    ∃ left, visitor.see event editor = .ok () left := by
  have fits := Nat.lt_of_le_of_lt inside small
  cases event with
  | run offset width count =>
    rw [shownBytes_run, shownBytes_nil] at affordable
    exact ⟨_, visit_eq_ok.mpr ⟨⟨fits, inside, affordable⟩, rfl⟩⟩
  | span offset length => exact ⟨_, checkSpan_eq_ok.mpr ⟨⟨fits, inside⟩, rfl⟩⟩

/-- What an editor has accepted ends inside the block, and the budget was charged for the runs. -/
theorem seeAll_accepted (seen : visitor.seeAll events editor = .ok () left) :
    (∀ event ∈ events, event.finish ≤ editor.bytes.size) ∧
      Spent editor left (shownBytes events) := by
  induction events generalizing editor with
  | nil =>
    cases seen
    exact ⟨fun _ impossible => absurd impossible List.not_mem_nil, rfl, rfl⟩
  | cons event rest ih =>
    rcases run_bind_eq_ok.mp seen with ⟨_, middle, first, others⟩
    rcases see_accepted first with ⟨inside, spent⟩
    rcases ih others with ⟨insides, spents⟩
    rw [spent.size] at insides
    refine ⟨List.forall_mem_cons.mpr ⟨inside, insides⟩, ?_⟩
    rw [← List.singleton_append, shownBytes_append]
    exact spent.trans spents

theorem seeAll_fit (seen : visitor.seeAll events editor = .ok () left) :
    ∀ run ∈ runsOf events, run.finish ≤ editor.bytes.size := by
  intro run member
  exact (seeAll_accepted seen).1 _ (mem_runsOf.mp member)

/-- What an editor has accepted is reversed run after run if the editor swaps, and otherwise nothing
happens to the block. -/
theorem seeAll_reverses (seen : visitor.seeAll events editor = .ok () left) :
    left.bytes =
      if editor.swap then reverseRuns (runsOf events) editor.bytes else editor.bytes := by
  induction events generalizing editor with
  | nil =>
    cases seen
    exact (ite_self _).symm
  | cons event rest ih =>
    rcases run_bind_eq_ok.mp seen with ⟨_, middle, first, others⟩
    cases event with
    | run offset width count =>
      rcases visit_eq_ok.mp first with ⟨-, rfl⟩
      rw [ih others, swap_accept, bytes_accept]
      split <;> rfl
    | span offset length =>
      rcases checkSpan_eq_ok.mp first with ⟨-, rfl⟩
      exact ih others

/-- An editor accepts all that ends inside the block and is covered by the budget. -/
theorem exists_seeAll (small : editor.bytes.size < sizeLimit)
    (inside : ∀ event ∈ events, event.finish ≤ editor.bytes.size)
    (affordable : shownBytes events ≤ editor.budget) :
    ∃ left, visitor.seeAll events editor = .ok () left := by
  induction events generalizing editor with
  | nil => exact ⟨editor, rfl⟩
  | cons event rest ih =>
    rcases List.forall_mem_cons.mp inside with ⟨first, others⟩
    rw [← List.singleton_append, shownBytes_append] at affordable
    rcases exists_see small first (by omega) with ⟨middle, seen⟩
    have spent := (see_accepted seen).2
    have budget := spent.budget
    rw [← spent.size] at small others
    rcases ih small others (by omega) with ⟨left, shown⟩
    exact ⟨left, run_bind_eq_ok.mpr ⟨(), middle, seen, shown⟩⟩

end BlockEditor

/-! ## One value -/

section Value

variable {editor : BlockEditor} {offset size : Nat} {events : List WalkEvent}

theorem SizeCache.Sound.afterMeasure (sound : sizes.Sound spaces)
    (answered : measure spaces type sizes = .ok size after) : after.Sound spaces := by
  have kept := (sound.trails_afterCall (.measure type)).ahead
  rwa [SizeCache.afterCall, answered] at kept

/-- An editor that a walk has gone through without an error has accepted all that the type expands
to. -/
theorem value_accepted {walked : Walked BlockEditor} {answer : Nat} (sound : sizes.Sound spaces)
    (ran : Walk.value spaces BlockEditor.visitor nestingLimit offset type ⟨sizes, editor⟩ =
      .ok answer walked) :
    ∃ size, measure spaces type sizes = .ok size walked.sizes ∧
      (∀ depth, Meets spaces type depth → depth < nestingLimit) ∧
      (∃ events, Expands spaces offset type events ∧
        ∀ event ∈ events, event.finish ≤ editor.bytes.size) ∧
      BlockEditor.Spent editor walked.state size := by
  cases measuredType : measure spaces type sizes with
  | error error after =>
    rcases value_unmeasured BlockEditor.visitor rfl sound offset measuredType editor
      with ⟨events, _, shows'⟩
    rw [ran] at shows'
    cases shows' with
    | ended _ impossible => exact impossible.elim
  | ok size after =>
    rcases value_shows BlockEditor.visitor rfl sound offset measuredType editor
      with ⟨events, expands, shows'⟩
    rw [ran] at shows'
    cases shows' with
    | ended shown holds =>
      rcases BlockEditor.seeAll_accepted shown with ⟨inside, spent⟩
      have answered : measured spaces sizes type = .ok size := by
        rw [measured, measuredType]
        rfl
      rw [expands.shownBytes_eq (hasSize_of_measured sound answered)] at spent
      exact ⟨size, rfl, holds.2, ⟨events, expands, inside⟩, spent⟩

/-- A walk goes through an editor that accepts all that the type expands to. -/
theorem exists_value (sound : sizes.Sound spaces)
    (small : editor.bytes.size + 0x100000000 < sizeLimit)
    (measuredType : measure spaces type sizes = .ok size after)
    (nests : ∀ depth, Meets spaces type depth → depth < nestingLimit)
    (expands : Expands spaces offset type events)
    (inside : ∀ event ∈ events, event.finish ≤ editor.bytes.size)
    (affordable : size ≤ editor.budget) :
    ∃ answer walked, Walk.value spaces BlockEditor.visitor nestingLimit offset type
      ⟨sizes, editor⟩ = .ok answer walked := by
  rcases value_shows BlockEditor.visitor rfl sound offset measuredType editor
    with ⟨others, again, shows'⟩
  cases expands.unique again
  have answered : measured spaces sizes type = .ok size := by
    rw [measured, measuredType]
    rfl
  rw [← expands.shownBytes_eq (hasSize_of_measured sound answered)] at affordable
  revert shows'
  cases Walk.value spaces BlockEditor.visitor nestingLimit offset type ⟨sizes, editor⟩ with
  | ok answer walked => exact fun _ => ⟨answer, walked, rfl⟩
  | error error walked =>
    intro shows'
    exfalso
    cases shows' with
    | refused planned refusal =>
      rcases planned with ⟨rest, rfl⟩
      rw [shownBytes_append] at affordable
      rcases BlockEditor.exists_seeAll (by omega)
        (fun event member => inside event (List.mem_append_left rest member))
        (Nat.le_of_add_right_le affordable) with ⟨left, accepted⟩
      rw [accepted] at refusal
      cases refusal
    | stopped planned shown cause =>
      cases cause with
      | nested meets deep => exact absurd (nests _ meets) (Nat.not_lt.mpr deep)
      | large shown past =>
        have ends := inside _ shown
        omega

end Value

/-! ## All variables -/

/-- What it takes to walk variables in a block of so many bytes, of which so many may be visited.
Each type is measured with the sizes that are known after the ones before it. -/
structure Accepts (spaces : List VariableSpace) (sizes : SizeCache) (vars : List Variable)
    (length budget : Nat) : Prop where
  measures : ∃ numbers after, (vars.mapM fun record => measure spaces record.type) sizes =
    .ok numbers after ∧ numbers.sum ≤ budget
  nests : ∀ record ∈ vars, ∀ depth, Meets spaces record.type depth → depth < nestingLimit
  inside : ∀ record ∈ vars, ∃ events, Expands spaces record.offset.toNat record.type events ∧
    ∀ event ∈ events, event.finish ≤ length

theorem measureAll_cons {record : Variable} {rest : List Variable} {numbers : List Nat} :
    ((record :: rest).mapM fun record => measure spaces record.type) sizes = .ok numbers after ↔
      ∃ size middle others, measure spaces record.type sizes = .ok size middle ∧
        (rest.mapM fun record => measure spaces record.type) middle = .ok others after ∧
          numbers = size :: others := by
  rw [List.mapM_cons]
  constructor
  · intro measured
    rcases run_bind_eq_ok.mp measured with ⟨size, middle, first, measured⟩
    rcases run_bind_eq_ok.mp measured with ⟨others, _, measured, same⟩
    cases same
    exact ⟨size, middle, others, first, measured, rfl⟩
  · rintro ⟨size, middle, others, first, measured, rfl⟩
    apply run_bind_eq_ok.mpr
    exact ⟨size, middle, first, run_bind_eq_ok.mpr ⟨others, after, measured, rfl⟩⟩

/-- The first variable takes from the budget what it measures. -/
theorem accepts_cons {record : Variable} {rest : List Variable} {length budget : Nat} :
    Accepts spaces sizes (record :: rest) length budget ↔
      ∃ size middle, measure spaces record.type sizes = .ok size middle ∧ size ≤ budget ∧
        (∀ depth, Meets spaces record.type depth → depth < nestingLimit) ∧
        (∃ events, Expands spaces record.offset.toNat record.type events ∧
          ∀ event ∈ events, event.finish ≤ length) ∧
        Accepts spaces middle rest length (budget - size) := by
  constructor
  · rintro ⟨⟨numbers, after, measured, affordable⟩, nests, inside⟩
    rcases measureAll_cons.mp measured with ⟨size, middle, others, first, remaining, rfl⟩
    rw [List.sum_cons] at affordable
    rcases List.forall_mem_cons.mp nests with ⟨nestsFirst, nests⟩
    rcases List.forall_mem_cons.mp inside with ⟨insideFirst, inside⟩
    refine ⟨size, middle, first, by omega, nestsFirst, insideFirst, ?_⟩
    exact ⟨⟨others, after, remaining, by omega⟩, nests, inside⟩
  · rintro ⟨size, middle, first, enough, nestsFirst, insideFirst,
      ⟨others, after, measured, affordable⟩, nests, inside⟩
    refine ⟨⟨size :: others, after, ?_, ?_⟩, ?_, ?_⟩
    · exact measureAll_cons.mpr ⟨size, middle, others, first, measured, rfl⟩
    · rw [List.sum_cons]
      omega
    · exact List.forall_mem_cons.mpr ⟨nestsFirst, nests⟩
    · exact List.forall_mem_cons.mpr ⟨insideFirst, inside⟩

/-- The variables are walked one after the other, with the sizes and the budget that are left. -/
theorem block_accepts {editor : BlockEditor} (vars : List Variable) (sound : sizes.Sound spaces)
    (small : editor.bytes.size + 0x100000000 < sizeLimit) :
    (∃ walked, Walk.block spaces BlockEditor.visitor vars ⟨sizes, editor⟩ = .ok () walked) ↔
      Accepts spaces sizes vars editor.bytes.size editor.budget := by
  induction vars generalizing sizes editor with
  | nil =>
    constructor
    · intro _
      have nobody : ∀ {property : Variable → Prop}, ∀ record ∈ ([] : List Variable), property record :=
        fun _ impossible => absurd impossible List.not_mem_nil
      exact ⟨⟨[], sizes, rfl, Nat.zero_le _⟩, nobody, nobody⟩
    · intro _
      exact ⟨⟨sizes, editor⟩, rfl⟩
  | cons record rest ih =>
    rw [accepts_cons]
    -- What is left for the others is what the first variable leaves.
    have others : ∀ {size : Nat} {walked : Walked BlockEditor},
        measure spaces record.type sizes = .ok size walked.sizes →
        BlockEditor.Spent editor walked.state size →
        ((∃ last, Walk.block spaces BlockEditor.visitor rest walked = .ok () last) ↔
          Accepts spaces walked.sizes rest editor.bytes.size (editor.budget - size)) := by
      intro size walked measuredType spent
      have left : walked.state.budget = editor.budget - size := by
        rw [← spent.budget, Nat.add_sub_cancel]
      rw [← spent.size] at small ⊢
      rw [← left]
      exact ih (sound.afterMeasure measuredType) small
    constructor
    · rintro ⟨last, ran⟩
      rcases run_bind_eq_ok.mp ran with ⟨answer, walked, first, ran⟩
      rcases value_accepted sound first with ⟨size, measuredType, nests, inside, spent⟩
      have enough : size ≤ editor.budget := spent.budget ▸ Nat.le_add_left _ _
      exact ⟨size, walked.sizes, measuredType, enough, nests, inside,
        (others measuredType spent).mp ⟨last, ran⟩⟩
    · rintro ⟨size, middle, measuredType, enough, nests, ⟨events, expands, inside⟩, accepts⟩
      rcases exists_value sound small measuredType nests expands inside enough
        with ⟨answer, walked, first⟩
      rcases value_accepted sound first with ⟨size', measuredType', _, _, spent⟩
      rw [measuredType] at measuredType'
      cases measuredType'
      rcases (others measuredType spent).mpr accepts with ⟨last, ran⟩
      exact ⟨last, run_bind_eq_ok.mpr ⟨answer, walked, first, ran⟩⟩

/-! ## Blocks -/

namespace Workspace

/-- Blocks of one length are accepted alike, or refused with the same error. -/
theorem normalizeBlock_outcome (spaces : List VariableSpace) (vars : List Variable)
    (sizes : SizeCache) (swap swap' : Bool) {bytes other : List UInt8}
    (sameLength : other.length = bytes.length) :
    outcomeOf (normalizeBlock spaces vars swap' ⟨sizes, other⟩) =
      outcomeOf (normalizeBlock spaces vars swap ⟨sizes, bytes⟩) := by
  have here := normalizeBlock_alike noExcuse spaces vars swap bytes ⟨sizes, bytes⟩ ⟨sizes, bytes⟩
    ⟨rfl, rfl, rfl⟩
  have there := normalizeBlock_alike noExcuse spaces vars swap' bytes ⟨sizes, other⟩
    ⟨sizes, bytes⟩ ⟨rfl, rfl, sameLength⟩
  rw [there.outcome_eq, here.outcome_eq]

end Workspace

/-- After any calls and walks, whether a block can be walked is a matter of its length and of the
layout of its variables: each of them has to be measured, to keep inside the nesting limit and to
expand to what ends inside the block, and the sizes of all together have to be covered by four
visits to each byte.  What the outcome is depends neither on the bytes nor on whether they are
reversed. -/
theorem usedWalker_accepts_exactly (reached : sizes.Reachable spaces) (vars : List Variable)
    (swap : Bool) {bytes : List UInt8} (small : 4 * bytes.length < sizeLimit) :
    ((∃ left, Workspace.normalizeBlock spaces vars swap ⟨sizes, bytes⟩ = .ok () left) ↔
      Accepts spaces sizes vars bytes.length (4 * bytes.length)) ∧
    ∀ (swap' : Bool) (other : List UInt8), other.length = bytes.length →
      outcomeOf (Workspace.normalizeBlock spaces vars swap' ⟨sizes, other⟩) =
        outcomeOf (Workspace.normalizeBlock spaces vars swap ⟨sizes, bytes⟩) := by
  constructor
  · have length : (BlockEditor.ofBlock bytes swap).bytes.size = bytes.length := rfl
    have budget : (BlockEditor.ofBlock bytes swap).budget = 4 * bytes.length := by
      change saturated (bytes.length * 4) = _
      rw [saturated]
      omega
    have room : (BlockEditor.ofBlock bytes swap).bytes.size + 0x100000000 < sizeLimit := by
      rw [length]
      unfold sizeLimit at small ⊢
      omega
    have walks := block_accepts vars reached.sound room
    rw [length, budget] at walks
    rw [← walks]
    constructor
    · rintro ⟨left, ran⟩
      rcases Workspace.normalizeBlock_eq_ok.mp ran with ⟨walked, ran, _⟩
      exact ⟨walked, ran⟩
    · rintro ⟨walked, ran⟩
      exact ⟨_, Workspace.normalizeBlock_eq_ok.mpr ⟨walked, ran, rfl⟩⟩
  · exact fun swap' _ => Workspace.normalizeBlock_outcome spaces vars sizes swap swap'

/-- Four pairs of numbers that lie over one another exhaust the budget; a fifth one is refused. -/
theorem usedWalker_accepts_four_pairs :
    let spaces : List VariableSpace :=
      [[⟨.ofBase (.scalar .int), 0, 0, 0⟩, ⟨.ofBase (.scalar .dword), 1, 0, 0⟩]]
    let pair : Variable := ⟨.ofSpace 0, 0, 0, 0⟩
    let sizes := SizeCache.afterCall spaces [] (.measure (.ofSpace 1))
    Accepts spaces sizes (List.replicate 4 pair) 8 32 ∧
      ¬ Accepts spaces sizes (List.replicate 5 pair) 8 32 ∧
      outcomeOf (Workspace.normalizeBlock spaces (List.replicate 5 pair) false
        ⟨sizes, [8, 7, 6, 5, 4, 3, 2, 1]⟩) = .error (.tooComplex 32) := by
  intro spaces pair sizes
  have reached : sizes.Reachable spaces := .called .fresh _
  have small : 4 * [(1 : UInt8), 2, 3, 4, 5, 6, 7, 8].length < sizeLimit := by decide
  have accepted : outcomeOf (Workspace.normalizeBlock spaces (List.replicate 4 pair) true
      ⟨sizes, [1, 2, 3, 4, 5, 6, 7, 8]⟩) = .ok () := by decide +kernel
  have refused : outcomeOf (Workspace.normalizeBlock spaces (List.replicate 5 pair) true
      ⟨sizes, [1, 2, 3, 4, 5, 6, 7, 8]⟩) = .error (.tooComplex 32) := by decide +kernel
  rcases usedWalker_accepts_exactly reached (List.replicate 4 pair) true small with ⟨four, _⟩
  rcases usedWalker_accepts_exactly reached (List.replicate 5 pair) true small with ⟨five, alike⟩
  refine ⟨four.mp ⟨_, result_eq_ok.mpr ⟨accepted, rfl⟩⟩, ?_, ?_⟩
  · intro accepts
    rcases five.mpr accepts with ⟨left, ran⟩
    rw [ran] at refused
    cases refused
  · exact (alike false [8, 7, 6, 5, 4, 3, 2, 1] rfl).trans refused

end CompiledModule
