import CompiledModule.Proofs.Layout.BlockAlike
import CompiledModule.Proofs.Layout.Shown

namespace CompiledModule

/-!
# Converting a block to another byte order

A walk that reverses the scalars of a block does to the block what its runs say and nothing else.
Whatever the layout, the bytes are only rearranged, and those outside all runs stay.  Where the runs
do not overlap, every scalar is reversed exactly once.

Whether a walk goes on does not depend on the bytes that it has rearranged.  A second walk with the
same walker, which by now knows more sizes than before, comes to the same runs, and if they do not
overlap it puts the bytes back.
-/

variable {spaces : List VariableSpace}

namespace BlockEditor

theorem finish_eq_ok {editor : BlockEditor} {offset length finish : Nat} :
    editor.finish offset length = .ok finish ↔
      offset + length = finish ∧ finish < sizeLimit ∧ finish ≤ editor.bytes.size := by
  unfold BlockEditor.finish
  constructor
  · intro succeeded
    rcases bind_eq_ok.mp succeeded with ⟨sum, added, succeeded⟩
    rcases sizeSum_eq_ok.mp added with ⟨rfl, below⟩
    split at succeeded <;> cases succeeded
    exact ⟨rfl, below, ‹_›⟩
  · rintro ⟨rfl, below, inside⟩
    apply bind_eq_ok.mpr
    exact ⟨_, sizeSum_eq_ok.mpr ⟨rfl, below⟩, if_pos inside⟩

/-- A run is accepted when it ends inside the block and the budget suffices. -/
theorem runLength_eq_ok {editor : BlockEditor} {offset width count length : Nat} :
    editor.runLength offset width count = .ok length ↔
      width * count = length ∧ offset + length < sizeLimit ∧
        offset + length ≤ editor.bytes.size ∧ length ≤ editor.budget := by
  unfold runLength
  constructor
  · intro accepted
    rcases bind_eq_ok.mp accepted with ⟨product, multiplied, accepted⟩
    rcases sizeProduct_eq_ok.mp multiplied with ⟨rfl, -⟩
    rcases bind_eq_ok.mp accepted with ⟨finish, ends, accepted⟩
    rcases finish_eq_ok.mp ends with ⟨rfl, below, inside⟩
    split at accepted <;> cases accepted
    exact ⟨rfl, below, inside, by omega⟩
  · rintro ⟨rfl, below, inside, affordable⟩
    apply bind_eq_ok.mpr
    refine ⟨_, sizeProduct_eq_ok.mpr ⟨rfl, by omega⟩, bind_eq_ok.mpr ?_⟩
    exact ⟨_, finish_eq_ok.mpr ⟨rfl, below, inside⟩, if_neg (by omega)⟩

/-- The editor has reversed the runs of the log in the block `original`. -/
structure HasReversed (original : Array UInt8) (editor : BlockEditor) (log : List WalkEvent) :
    Prop where
  swaps : editor.swap = true
  fit : ∀ run ∈ runsOf log, run.finish ≤ original.size
  bytes : editor.bytes = reverseRuns (runsOf log) original

variable {original other : Array UInt8} {editor : BlockEditor} {log : List WalkEvent}

theorem HasReversed.size (reversed : HasReversed original editor log) :
    editor.bytes.size = original.size := by
  rw [reversed.bytes, size_reverseRuns]

theorem HasReversed.accept (reversed : HasReversed original editor log)
    {offset width count length : Nat}
    (accepted : editor.runLength offset width count = .ok length) :
    HasReversed original (editor.accept offset width length)
      (log ++ [.run offset width count]) := by
  rcases runLength_eq_ok.mp accepted with ⟨rfl, -, inside, -⟩
  rw [reversed.size] at inside
  constructor
  · exact (swap_accept editor offset width _).trans reversed.swaps
  · intro run member
    rw [runsOf_run] at member
    rcases List.mem_append.mp member with before | last
    · exact reversed.fit run before
    · cases List.mem_singleton.mp last
      exact inside
  · rw [bytes_accept, if_pos reversed.swaps, reversed.bytes, runsOf_run, reverseRuns_append]
    rfl

theorem HasReversed.span (reversed : HasReversed original editor log) (offset length : Nat) :
    HasReversed original editor (log ++ [.span offset length]) := by
  constructor
  · exact reversed.swaps
  · rw [runsOf_span]
    exact reversed.fit
  · rw [runsOf_span]
    exact reversed.bytes

/-- Two editors at the same point of a walk, one in the block `original`, the other one in `other`. -/
structure Parallel (original other : Array UInt8)
    (left right : BlockEditor × List WalkEvent) : Prop where
  log : left.2 = right.2
  budget : left.1.budget = right.1.budget
  left : HasReversed original left.1 left.2
  right : HasReversed other right.1 right.2

/-- Blocks of one length are walked alike, whatever is in them. -/
theorem parallel_alike (sameSize : original.size = other.size) :
    Visitor.Alike (fun _ => True) (Parallel original other) visitor.logged visitor.logged where
  enters := rfl
  visit offset width count := by
    rintro ⟨editor, log⟩ ⟨editor', _⟩ ⟨rfl, budget, left, right⟩
    have size : editor.bytes.size = editor'.bytes.size := by
      rw [left.size, right.size, sameSize]
    have same := runLength_congr size budget offset width count
    simp only [Visitor.logged, logging, visitor, visit, ← same]
    cases accepted : editor.runLength offset width count with
    | error error => exact Or.inr trivial
    | ok length =>
      refine ⟨rfl, rfl, ?_, left.accept accepted, right.accept (same ▸ accepted)⟩
      rw [budget_accept, budget_accept]
      exact congrArg (· - length) budget
  checkSpan offset length := by
    rintro ⟨editor, log⟩ ⟨editor', _⟩ ⟨rfl, budget, left, right⟩
    have size : editor.bytes.size = editor'.bytes.size := by
      rw [left.size, right.size, sameSize]
    have same := finish_congr size offset length
    simp only [Visitor.logged, logging, visitor, checkSpan, ← same]
    cases editor.finish offset length with
    | error error => exact Or.inr trivial
    | ok finish => exact ⟨rfl, rfl, budget, left.span offset length, right.span offset length⟩

theorem parallel_ofBlock {bytes bytes' : List UInt8} (sameLength : bytes.length = bytes'.length) :
    Parallel bytes.toArray bytes'.toArray (.ofBlock bytes true, []) (.ofBlock bytes' true, []) := by
  constructor
  · rfl
  · simp only [ofBlock, sameLength]
  · exact ⟨rfl, by simp [runsOf], rfl⟩
  · exact ⟨rfl, by simp [runsOf], rfl⟩

end BlockEditor

/-- Sizes are found as before when more of them are known, unless the walk gives up at first. -/
theorem sizesAlike_trails (spaces : List VariableSpace) :
    SizesAlike (fun _ => True) spaces (SizeCache.Trails spaces) fun _ => True where
  size levels space _ := (structSize_trails levels [] space).excusing fun _ _ => trivial
  members _ _ _ _ _ _ _ _ := trivial

namespace Walk

variable {sizes others after : SizeCache} {vars : List Variable} {bytes bytes' : List UInt8}
  {editor : BlockEditor} {log : List WalkEvent}

/-- What a walk has shown it shows again when more sizes are known and the bytes are others. -/
theorem block_again (trails : sizes.Trails spaces others)
    (sameLength : bytes.length = bytes'.length)
    (ran : block spaces BlockEditor.visitor.logged vars ⟨sizes, .ofBlock bytes true, []⟩ =
      .ok () ⟨after, editor, log⟩) :
    BlockEditor.HasReversed bytes.toArray editor log ∧
      ∃ after' editor', block spaces BlockEditor.visitor.logged vars
          ⟨others, .ofBlock bytes' true, []⟩ = .ok () ⟨after', editor', log⟩ ∧
        BlockEditor.HasReversed bytes'.toArray editor' log := by
  have sameSize : bytes.toArray.size = bytes'.toArray.size := by simpa using sameLength
  have walks := block_alike (BlockEditor.parallel_alike sameSize) (sizesAlike_trails spaces)
    (fun record (_ : record ∈ vars) _ _ => trivial)
  have ends := walks ⟨sizes, .ofBlock bytes true, []⟩ ⟨others, .ofBlock bytes' true, []⟩
    ⟨trails, BlockEditor.parallel_ofBlock sameLength⟩
  rw [ran] at ends
  rcases ends.right_ok with ⟨_, ⟨after', editor', log'⟩, ran', -, -, parallel⟩
  cases parallel.log
  exact ⟨parallel.left, after', editor', ran', parallel.right⟩

end Walk

namespace Workspace

theorem normalizeBlock_eq_ok {vars : List Variable} {swap : Bool} {before after : Workspace} :
    normalizeBlock spaces vars swap before = .ok () after ↔
      ∃ walked, Walk.block spaces BlockEditor.visitor vars
          ⟨before.sizes, .ofBlock before.bytes swap⟩ = .ok () walked ∧
        after = ⟨walked.sizes, walked.state.bytes.toList⟩ := by
  unfold normalizeBlock edit
  cases Walk.block spaces BlockEditor.visitor vars ⟨before.sizes, .ofBlock before.bytes swap⟩ with
  | ok _ walked =>
    constructor
    · intro same
      cases same
      exact ⟨walked, rfl, rfl⟩
    · rintro ⟨_, same, rfl⟩
      cases same
      rfl
  | error error walked =>
    constructor
    · intro impossible
      cases impossible
    · rintro ⟨_, impossible, _⟩
      cases impossible

variable {vars : List Variable} {before after : Workspace}

/-- A conversion that succeeds has reversed the runs that it was shown, and it succeeds again on any
block of the same length, with the same runs. -/
theorem normalizeBlock_reverses (sound : before.sizes.Sound spaces)
    (converted : normalizeBlock spaces vars true before = .ok () after) :
    (∀ run ∈ shownRuns spaces vars true before, run.finish ≤ before.bytes.length) ∧
      after.bytes =
        (reverseRuns (shownRuns spaces vars true before) before.bytes.toArray).toList ∧
      ∀ bytes, before.bytes.length = bytes.length →
        ∃ again, normalizeBlock spaces vars true ⟨after.sizes, bytes⟩ = .ok () again ∧
          again.bytes =
            (reverseRuns (shownRuns spaces vars true before) bytes.toArray).toList := by
  rcases normalizeBlock_eq_ok.mp converted with ⟨⟨sizes, editor⟩, ran, rfl⟩
  have logs := Walk.block_logged sound BlockEditor.visitor vars (.ofBlock before.bytes true) []
  rw [ran] at logs
  rcases logs.right_ok with ⟨_, ⟨_, _, log⟩, logged, -, ⟨rfl, trails⟩, rfl⟩
  have shown : shownRuns spaces vars true before = runsOf log := by
    simp only [shownRuns, logged, leftBy]
  rcases Walk.block_again trails rfl logged with ⟨reversed, -⟩
  rw [shown]
  refine ⟨?_, congrArg Array.toList reversed.bytes, ?_⟩
  · simpa using reversed.fit
  · intro bytes sameLength
    rcases Walk.block_again trails sameLength logged
      with ⟨-, after', editor', ran', reversed'⟩
    have plain := Walk.block_logged trails.ahead BlockEditor.visitor vars (.ofBlock bytes true) []
    rw [ran'] at plain
    rcases plain.left_ok with ⟨_, ⟨again, _⟩, succeeded, -, -, rfl⟩
    exact ⟨_, normalizeBlock_eq_ok.mpr ⟨_, succeeded, rfl⟩,
      congrArg Array.toList reversed'.bytes⟩

end Workspace

/-- After any calls, a conversion that succeeds rearranges the bytes of the runs it is shown, which
lie inside the block, and leaves all other bytes as they are.  If the runs do not overlap, every
scalar has its bytes reversed, so that a host of the other order reads from it what was stored; runs
of single bytes stay as they are; and converting again, with the sizes that are known by then, gives
the original block. -/
theorem usedWalker_converts_once (spaces : List VariableSpace) (calls : List WalkerCall)
    (vars : List Variable) (bytes : List UInt8) (after : Workspace)
    (converted : Workspace.normalizeBlock spaces vars true ⟨.after spaces calls, bytes⟩ =
      .ok () after) :
    let runs := Workspace.shownRuns spaces vars true ⟨.after spaces calls, bytes⟩
    (∀ run ∈ runs, run.finish ≤ bytes.length) ∧
    after.bytes.length = bytes.length ∧
    after.bytes.Perm bytes ∧
    (∀ place, (∀ run ∈ runs, ¬ run.Covers place) → after.bytes[place]? = bytes[place]?) ∧
    (ApartRuns runs →
      (∀ run ∈ runs, ∀ index < run.count,
        run.element after.bytes index = (run.element bytes index).reverse ∧
          ByteOrder.big.value (run.element after.bytes index) =
            ByteOrder.little.value (run.element bytes index)) ∧
      (∀ run ∈ runs, run.width = 1 → ∀ place, run.Covers place →
        after.bytes[place]? = bytes[place]?) ∧
      ∃ again, Workspace.normalizeBlock spaces vars true after = .ok () again ∧
        again.bytes = bytes) := by
  intro runs
  have sound := SizeCache.sound_after spaces calls
  rcases Workspace.normalizeBlock_reverses sound converted with ⟨fit, reversed, anew⟩
  have perm : after.bytes.Perm bytes := by
    rw [reversed]
    exact perm_reverseRuns fit
  have moved : ∀ place : Nat, after.bytes[place]? = bytes[mirrorRuns runs place]? := by
    intro place
    rw [reversed]
    exact getElem?_reverseRuns fit place
  refine ⟨fit, perm.length_eq, perm, ?_, fun apart => ⟨?_, ?_, ?_⟩⟩
  · intro place outside
    rw [moved, mirrorRuns_outside outside]
  · intro run member index inside
    have element : run.element after.bytes index = (run.element bytes index).reverse := by
      rw [reversed]
      exact element_reverseRuns apart fit member inside
    refine ⟨element, ?_⟩
    rw [element]
    simp only [ByteOrder.value, ByteOrder.arrange, List.reverse_reverse]
  · intro run member one place covers
    rw [moved, mirrorRuns_inside apart member covers, ScalarRun.mirror_of_width_one one]
  · rcases anew after.bytes perm.length_eq.symm with ⟨again, succeeded, restored⟩
    refine ⟨again, succeeded, ?_⟩
    rw [restored, reversed, Array.toArray_toList]
    exact congrArg Array.toList (reverseRuns_reverseRuns apart fit)

/-- A pair of structs of a word and a byte, behind a byte that belongs to no variable. -/
theorem usedWalker_converts_pair_once :
    let spaces : List VariableSpace :=
      [[⟨.ofBase (.scalar .word), 0, 0, 0⟩, ⟨.ofBase (.scalar .byte), 1, 2, 0⟩]]
    let pair : List Variable := [⟨.ofSpace 0, 0, 1, 0⟩, ⟨.ofSpace 0, 1, 4, 0⟩]
    let calls : List WalkerCall := [.measure (.ofSpace 1), .measure (.ofSpace 0)]
    Workspace.normalizeBlock spaces pair true ⟨.after spaces calls, [0, 1, 2, 3, 4, 5, 6]⟩ =
        .ok () ⟨[(0, 3)], [0, 2, 1, 3, 5, 4, 6]⟩ ∧
      ∃ again, Workspace.normalizeBlock spaces pair true ⟨[(0, 3)], [0, 2, 1, 3, 5, 4, 6]⟩ =
          .ok () again ∧
        again.bytes = [0, 1, 2, 3, 4, 5, 6] := by
  intro spaces pair calls
  have converted : Workspace.normalizeBlock spaces pair true
      ⟨.after spaces calls, [0, 1, 2, 3, 4, 5, 6]⟩ =
        .ok () ⟨[(0, 3)], [0, 2, 1, 3, 5, 4, 6]⟩ :=
    result_eq_ok.mpr (by decide +kernel)
  have apart : ApartRuns (Workspace.shownRuns spaces pair true
      ⟨.after spaces calls, [0, 1, 2, 3, 4, 5, 6]⟩) := by decide +kernel
  have all := usedWalker_converts_once spaces calls pair [0, 1, 2, 3, 4, 5, 6] _ converted
  exact ⟨converted, (all.2.2.2.2 apart).2.2⟩

end CompiledModule
