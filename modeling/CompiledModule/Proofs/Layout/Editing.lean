import CompiledModule.Proofs.Layout.Acceptance

namespace CompiledModule

/-!
# Editing a block call by call

An editor may be called with anything, and it may be called again after it has refused.  A call that
it refuses leaves no trace.  So whatever calls were made, the editor is where the accepted ones
alone would have brought it, and these go through from the first to the last.  What holds of a
sequence that is accepted holds therefore of every history: the budget was charged for the runs that
were accepted and for nothing else, and the block is the original one with the elements of these
runs reversed, one run after another.

Which call is accepted next depends on nothing but the length of the block and what is left of the
budget.
-/

/-! ## Elements that are turned -/

/-- The bytes `after` are the bytes `before` with every element of the run reversed. -/
structure ScalarRun.Turns (run : ScalarRun) (before after : List UInt8) : Prop where
  length : after.length = before.length
  elements : ∀ index < run.count, run.element after index = (run.element before index).reverse
  outside : ∀ place, ¬ run.Covers place → after[place]? = before[place]?

/-- The runs have their elements reversed, one run after another. -/
inductive TurnsAll : List ScalarRun → (before after : List UInt8) → Prop
  | nil (bytes : List UInt8) : TurnsAll [] bytes bytes
  | cons {run : ScalarRun} {rest : List ScalarRun} {before middle after : List UInt8}
    (first : run.Turns before middle) (others : TurnsAll rest middle after) :
    TurnsAll (run :: rest) before after

theorem ScalarRun.turns_reverseIn {run : ScalarRun} {block : Array UInt8}
    (fits : run.finish ≤ block.size) : run.Turns block.toList (run.reverseIn block).toList where
  length := (perm_reverseIn fits).length_eq
  elements index inside := by
    have alone : ApartRuns [run] := (List.pairwise_singleton ScalarRun.Apart run).filter _
    have fit : ∀ other ∈ [run], other.finish ≤ block.size := by
      intro other member
      rwa [List.mem_singleton.mp member]
    exact element_reverseRuns alone fit List.mem_cons_self inside
  outside place outside := by
    rw [getElem?_reverseIn fits, mirror_outside outside]

theorem turnsAll_reverseRuns {runs : List ScalarRun} {block : Array UInt8}
    (fit : ∀ run ∈ runs, run.finish ≤ block.size) :
    TurnsAll runs block.toList (reverseRuns runs block).toList := by
  induction runs generalizing block with
  | nil => exact .nil _
  | cons run rest ih =>
    have first := run.turns_reverseIn (fit run List.mem_cons_self)
    exact .cons first (ih (fit_rest fit))

namespace BlockEditor

variable {editor left : BlockEditor} {call : WalkEvent} {error : LayoutError}

/-! ## Refusals -/

/-- Why a run is refused in a block of `capacity` bytes of which `budget` more may be visited. -/
inductive Refusal (capacity budget : Nat) (run : ScalarRun) : LayoutError → Prop
  | overflow (large : sizeLimit ≤ run.finish) : Refusal capacity budget run .overflow
  | overrun (small : run.finish < sizeLimit) (outside : capacity < run.finish) :
    Refusal capacity budget run (.overrun run.offset run.length capacity)
  | tooComplex (inside : run.finish ≤ capacity) (exhausted : budget < run.length) :
    Refusal capacity budget run (.tooComplex (wholeBudget capacity))

theorem finish_eq_error {offset length : Nat} :
    editor.finish offset length = .error error ↔
      (sizeLimit ≤ offset + length ∧ error = .overflow) ∨
        (offset + length < sizeLimit ∧ editor.bytes.size < offset + length ∧
          error = .overrun offset length editor.bytes.size) := by
  unfold BlockEditor.finish
  rw [bind_eq_error, sizeSum_eq_error]
  apply or_congr_right
  constructor
  · rintro ⟨finish, added, failed⟩
    rcases sizeSum_eq_ok.mp added with ⟨rfl, small⟩
    split at failed <;> cases failed
    exact ⟨small, Nat.lt_of_not_le ‹_›, rfl⟩
  · rintro ⟨small, outside, rfl⟩
    exact ⟨_, sizeSum_eq_ok.mpr ⟨rfl, small⟩, if_neg (Nat.not_le.mpr outside)⟩

theorem refusal_of_runLength {run : ScalarRun}
    (failed : editor.runLength run.offset run.width run.count = .error error) :
    Refusal editor.bytes.size editor.budget run error := by
  unfold runLength at failed
  rcases bind_eq_error.mp failed with failed | ⟨length, multiplied, failed⟩
  · rcases sizeProduct_eq_error.mp failed with ⟨large, rfl⟩
    exact .overflow (Nat.le_trans large (Nat.le_add_left _ _))
  rcases sizeProduct_eq_ok.mp multiplied with ⟨rfl, -⟩
  rcases bind_eq_error.mp failed with failed | ⟨finish, ends, failed⟩
  · rcases finish_eq_error.mp failed with ⟨large, rfl⟩ | ⟨small, outside, rfl⟩
    · exact .overflow large
    · exact .overrun small outside
  rcases finish_eq_ok.mp ends with ⟨rfl, -, inside⟩
  split at failed <;> cases failed
  exact .tooComplex inside ‹_›

theorem visit_refused {run : ScalarRun}
    (refused : visit run.offset run.width run.count editor = .error error left) :
    left = editor ∧ Refusal editor.bytes.size editor.budget run error := by
  unfold visit at refused
  cases failed : editor.runLength run.offset run.width run.count with
  | ok length =>
    rw [failed] at refused
    cases refused
  | error cause =>
    rw [failed] at refused
    cases refused
    exact ⟨rfl, refusal_of_runLength failed⟩

theorem exists_visit_iff (small : editor.bytes.size < sizeLimit) (run : ScalarRun) :
    (∃ left, visit run.offset run.width run.count editor = .ok () left) ↔
      run.length < sizeLimit ∧ run.finish ≤ editor.bytes.size ∧ run.length ≤ editor.budget := by
  constructor
  · rintro ⟨left, accepted⟩
    rcases visit_eq_ok.mp accepted with ⟨⟨below, inside, affordable⟩, -⟩
    exact ⟨Nat.lt_of_le_of_lt (Nat.le_add_left _ _) below, inside, affordable⟩
  · rintro ⟨-, inside, affordable⟩
    have below := Nat.lt_of_le_of_lt inside small
    exact ⟨_, visit_eq_ok.mpr ⟨⟨below, inside, affordable⟩, rfl⟩⟩

theorem exists_checkSpan_iff (small : editor.bytes.size < sizeLimit) (offset length : Nat) :
    (∃ left, checkSpan offset length editor = .ok () left) ↔
      offset + length ≤ editor.bytes.size := by
  constructor
  · rintro ⟨left, accepted⟩
    exact (checkSpan_eq_ok.mp accepted).1.2
  · intro inside
    exact ⟨_, checkSpan_eq_ok.mpr ⟨⟨Nat.lt_of_le_of_lt inside small, inside⟩, rfl⟩⟩

/-- A span is only looked at. -/
theorem leftBy_checkSpan (editor : BlockEditor) (offset length : Nat) :
    leftBy (checkSpan offset length editor) = editor := by
  unfold checkSpan
  cases editor.finish offset length <;> rfl

theorem see_refused (refused : visitor.see call editor = .error error left) : left = editor := by
  cases call with
  | run offset width count =>
    have kept := @visit_refused editor left error ⟨offset, width, count⟩ refused
    exact kept.1
  | span offset length =>
    have kept := leftBy_checkSpan editor offset length
    change checkSpan offset length editor = _ at refused
    rwa [refused] at kept

/-! ## Histories -/

/-- What has become of an editor after calls, each of which may have been refused. -/
def after (editor : BlockEditor) (calls : List WalkEvent) : BlockEditor :=
  calls.foldl (fun editor call => leftBy (visitor.see call editor)) editor

/-- Those of the calls that are accepted when all of them are made one after another. -/
def accepted (editor : BlockEditor) : List WalkEvent → List WalkEvent
  | [] => []
  | call :: rest =>
    match visitor.see call editor with
    | .ok () after => call :: after.accepted rest
    | .error _ after => after.accepted rest

/-- The calls that were refused may as well not have been made. -/
theorem seeAll_accepted_after (editor : BlockEditor) (calls : List WalkEvent) :
    visitor.seeAll (editor.accepted calls) editor = .ok () (editor.after calls) := by
  induction calls generalizing editor with
  | nil => rfl
  | cons call rest ih =>
    rw [accepted, after, List.foldl_cons]
    cases seen : visitor.see call editor with
    | ok value middle => exact run_bind_eq_ok.mpr ⟨value, middle, seen, ih middle⟩
    | error error middle =>
      rw [see_refused seen]
      exact ih editor

end BlockEditor

open BlockEditor

/-- An editor of a block accepts a run exactly when it ends inside the block and is covered by the
budget, which is four times the block less the runs that were accepted before, whatever else was
asked and refused.  A refusal names its cause and leaves the bytes and the budget as they were, and
looking at a span always does.  The bytes are the original ones with the elements of the accepted
runs reversed, run after run, if the editor swaps, and otherwise just the original ones. -/
theorem editor_edits_atomically (bytes : List UInt8) (swap : Bool)
    (small : 4 * bytes.length < sizeLimit) (calls : List WalkEvent) :
    let editor := (BlockEditor.ofBlock bytes swap).after calls
    let runs := runsOf ((BlockEditor.ofBlock bytes swap).accepted calls)
    editor.budget + (runs.map ScalarRun.length).sum = 4 * bytes.length ∧
      (swap = true → TurnsAll runs bytes editor.bytes.toList) ∧
      (swap = false → editor.bytes.toList = bytes) ∧
      (∀ run : ScalarRun,
        ((∃ left, visit run.offset run.width run.count editor = .ok () left) ↔
          run.length < sizeLimit ∧ run.finish ≤ bytes.length ∧ run.length ≤ editor.budget) ∧
        ∀ error left, visit run.offset run.width run.count editor = .error error left →
          left = editor ∧ Refusal bytes.length editor.budget run error) ∧
      ∀ offset length,
        ((∃ left, checkSpan offset length editor = .ok () left) ↔
          offset + length ≤ bytes.length) ∧
        leftBy (checkSpan offset length editor) = editor := by
  intro editor runs
  have seen := seeAll_accepted_after (.ofBlock bytes swap) calls
  have spent := (seeAll_accepted seen).2
  have size : editor.bytes.size = bytes.length := spent.size
  have whole : (BlockEditor.ofBlock bytes swap).budget = 4 * bytes.length := by
    change saturated (bytes.length * 4) = _
    rw [saturated_of_lt (by omega), Nat.mul_comm]
  have below : editor.bytes.size < sizeLimit := by omega
  refine ⟨spent.budget.trans whole, ?_, ?_, ?_, ?_⟩
  · rintro rfl
    rw [seeAll_reverses seen]
    exact turnsAll_reverseRuns (seeAll_fit seen)
  · rintro rfl
    exact congrArg Array.toList (seeAll_reverses seen)
  · intro run
    rw [← size]
    exact ⟨exists_visit_iff below run, fun _ _ refused => visit_refused refused⟩
  · intro offset length
    rw [← size]
    exact ⟨exists_checkSpan_iff below offset length, leftBy_checkSpan editor offset length⟩

/-- A block of four bytes is swapped in pairs and then as a whole.  A run that reaches past the end
and one that is no size are refused in between.  When all visits are used up a single byte is
refused, and a run without elements is still accepted. -/
theorem editor_edits_four_bytes :
    let calls : List WalkEvent := [.run 0 2 2, .run 2 4 1, .run 1 0x8000000000000000 2, .span 0 9,
      .run 0 4 1, .run 0 1 4, .run 3 1 1, .run 0 1 3]
    let editor := (BlockEditor.ofBlock [1, 2, 3, 4] true).after calls
    4 * [(1 : UInt8), 2, 3, 4].length < sizeLimit ∧ editor = ⟨#[3, 4, 1, 2], true, 0⟩ ∧
      TurnsAll [⟨0, 2, 2⟩, ⟨0, 4, 1⟩, ⟨0, 1, 4⟩, ⟨3, 1, 1⟩, ⟨0, 1, 3⟩] [1, 2, 3, 4] [3, 4, 1, 2] ∧
      visit 0 1 1 editor = .error (.tooComplex 16) editor ∧
      ∃ left, visit 4 7 0 editor = .ok () left := by
  intro calls editor
  have small : 4 * [(1 : UInt8), 2, 3, 4].length < sizeLimit := by decide
  have ended : editor = ⟨#[3, 4, 1, 2], true, 0⟩ := by decide +kernel
  rcases editor_edits_atomically [1, 2, 3, 4] true small calls with ⟨_, turned, _, visits, _⟩
  have runs : runsOf ((BlockEditor.ofBlock [1, 2, 3, 4] true).accepted calls) =
      [⟨0, 2, 2⟩, ⟨0, 4, 1⟩, ⟨0, 1, 4⟩, ⟨3, 1, 1⟩, ⟨0, 1, 3⟩] := by decide +kernel
  have turns := turned rfl
  change TurnsAll _ _ editor.bytes.toList at turns
  rw [runs, ended] at turns
  refine ⟨small, ended, turns, ?_, ?_⟩
  · rw [ended]
    rfl
  · apply (visits ⟨4, 7, 0⟩).1.mpr
    change 7 * 0 < sizeLimit ∧ 4 + 7 * 0 ≤ 4 ∧ 7 * 0 ≤ editor.budget
    rw [ended]
    decide

end CompiledModule
