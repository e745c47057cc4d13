import CompiledModule.Layout.Block
import CompiledModule.Proofs.Layout.WalkAlike

namespace CompiledModule

/-!
# Editing a block and checking it

A walk that reverses the scalars of a block and a walk that only checks them refuse for the same
reasons.  A refusal looks at the length of the block and at what is left of the budget, never at a
byte of the block and never at whether bytes are reversed, and reversing keeps the length.  So the
two keep step, also when they walk different blocks of one length, and they leave blocks of one
length.  The one that checks leaves its block as it was.

What is proved of a walk carries over to a pass, to a block that has been read, and with the errors
that a pass can have to the comparison with a load that does not check its blocks at all.
-/

variable {excuse : LayoutError → Prop}

namespace BlockEditor

theorem size_reversed (bytes : Array UInt8) (offset width length : Nat) :
    (reversed bytes offset width length).size = bytes.size :=
  size_overwrite _ _ _

theorem bytes_accept (editor : BlockEditor) (offset width length : Nat) :
    (editor.accept offset width length).bytes =
      if editor.swap then reversed editor.bytes offset width length else editor.bytes := by
  rcases editor with ⟨bytes, swap, budget⟩
  cases swap <;> rfl

theorem size_accept (editor : BlockEditor) (offset width length : Nat) :
    (editor.accept offset width length).bytes.size = editor.bytes.size := by
  rw [bytes_accept]
  split
  · exact size_reversed editor.bytes offset width length
  · rfl

theorem budget_accept (editor : BlockEditor) (offset width length : Nat) :
    (editor.accept offset width length).budget = editor.budget - length := by
  rcases editor with ⟨bytes, swap, budget⟩
  cases swap <;> rfl

theorem swap_accept (editor : BlockEditor) (offset width length : Nat) :
    (editor.accept offset width length).swap = editor.swap := by
  rcases editor with ⟨bytes, swap, budget⟩
  cases swap <;> rfl

theorem finish_congr {left right : BlockEditor} (size : left.bytes.size = right.bytes.size)
    (offset length : Nat) : left.finish offset length = right.finish offset length := by
  unfold finish
  rw [size]

theorem runLength_congr {left right : BlockEditor} (size : left.bytes.size = right.bytes.size)
    (budget : left.budget = right.budget) (offset width count : Nat) :
    left.runLength offset width count = right.runLength offset width count := by
  unfold runLength
  simp only [finish_congr size, size, budget]

/-- An editor and one that only checks the block `original`, at the same point of a walk. -/
structure Alike (original : Array UInt8) (editor checker : BlockEditor) : Prop where
  checks : checker.swap = false
  keeps : checker.bytes = original
  size : editor.bytes.size = original.size
  budget : editor.budget = checker.budget

variable {original : Array UInt8} {editor checker : BlockEditor}

theorem Alike.finish_eq (alike : Alike original editor checker) (offset length : Nat) :
    editor.finish offset length = checker.finish offset length :=
  finish_congr (by rw [alike.size, alike.keeps]) offset length

theorem Alike.runLength_eq (alike : Alike original editor checker) (offset width count : Nat) :
    editor.runLength offset width count = checker.runLength offset width count :=
  runLength_congr (by rw [alike.size, alike.keeps]) alike.budget offset width count

theorem Alike.accept (alike : Alike original editor checker) (offset width length : Nat) :
    Alike original (editor.accept offset width length) (checker.accept offset width length) := by
  constructor
  · exact (swap_accept checker offset width length).trans alike.checks
  · rw [bytes_accept, alike.checks]
    exact alike.keeps
  · exact (size_accept editor offset width length).trans alike.size
  · rw [budget_accept, budget_accept, alike.budget]

theorem visitor_alike (original : Array UInt8) :
    Visitor.Alike excuse (Alike original) visitor visitor where
  enters := rfl
  visit offset width count := by
    intro editor checker alike
    change EndAlike _ _ _ (visit offset width count editor) (visit offset width count checker)
    unfold visit
    rw [alike.runLength_eq]
    cases checker.runLength offset width count with
    | ok length => exact ⟨rfl, alike.accept offset width length⟩
    | error error => exact Or.inl ⟨rfl, alike⟩
  checkSpan offset length := by
    intro editor checker alike
    change EndAlike _ _ _ (checkSpan offset length editor) (checkSpan offset length checker)
    unfold checkSpan
    rw [alike.finish_eq]
    cases checker.finish offset length with
    | ok finish => exact ⟨rfl, alike⟩
    | error error => exact Or.inl ⟨rfl, alike⟩

end BlockEditor

namespace Workspace

/-- Two blocks of one length with the same sizes found, of which the second holds `original`. -/
structure Alike (original : List UInt8) (left right : Workspace) : Prop where
  sizes : left.sizes = right.sizes
  keeps : right.bytes = original
  length : left.bytes.length = original.length

theorem normalizeBlock_alike (excuse : LayoutError → Prop) (spaces : List VariableSpace)
    (vars : List Variable) (swap : Bool) (original : List UInt8) :
    Coupled excuse (Alike original) Eq (normalizeBlock spaces vars swap)
      (normalizeBlock spaces vars false) := by
  rintro ⟨sizes, bytes⟩ ⟨_, _⟩ ⟨rfl, rfl, length⟩
  rename_i original
  have start : Walked.Alike Eq (BlockEditor.Alike original.toArray)
      ⟨sizes, .ofBlock bytes swap⟩ ⟨sizes, .ofBlock original false⟩ := by
    refine ⟨rfl, rfl, rfl, ?_, ?_⟩
    · simpa [BlockEditor.ofBlock] using length
    · simp only [BlockEditor.ofBlock, length]
  have leaves : ∀ {s t : Walked BlockEditor},
      Walked.Alike Eq (BlockEditor.Alike original.toArray) s t →
      Alike original ⟨s.sizes, s.state.bytes.toList⟩ ⟨t.sizes, t.state.bytes.toList⟩ := by
    rintro s t ⟨found, alike⟩
    refine ⟨found, ?_, ?_⟩
    · simp only [alike.keeps]
    · simpa using alike.size
  have walks : Coupled excuse (Walked.Alike Eq (BlockEditor.Alike original.toArray)) Eq
      (Walk.block spaces BlockEditor.visitor vars) (Walk.block spaces BlockEditor.visitor vars) :=
    Walk.block_alike (BlockEditor.visitor_alike original.toArray) (sizesAlike_eq spaces)
      fun _ _ _ _ => trivial
  have edited : ∀ swap bytes, normalizeBlock spaces vars swap ⟨sizes, bytes⟩ =
      embedded id (fun walked => ⟨walked.sizes, walked.state.bytes.toList⟩)
        (Walk.block spaces BlockEditor.visitor vars ⟨sizes, .ofBlock bytes swap⟩) := by
    intro swap bytes
    unfold normalizeBlock edit
    cases Walk.block spaces BlockEditor.visitor vars ⟨sizes, .ofBlock bytes swap⟩ <;> rfl
  rw [edited, edited]
  exact (walks _ _ start).embedded fun _ _ => leaves

end Workspace

namespace Pass

/-- An error that says in which block it was found. -/
def InBlock (error : LoadError) : Prop :=
  ∃ phase block cause, error = .inBlock phase block cause

/-- A pass that looks at the blocks keeps step with the one that only checks them. -/
theorem run_alike (excuse : LoadError → Prop) {pass : Pass} (looks : pass ≠ .skip)
    (spaces : List VariableSpace) (phase : Phase) (block : DataBlock) (vars : List Variable)
    (original : List UInt8) :
    Coupled excuse (Workspace.Alike original) Eq (pass.run spaces phase block vars)
      (check.run spaces phase block vars) := by
  -- The error is placed in the same way on both sides, so the walks are compared before that.
  have placed : ∀ swap, Coupled excuse (Workspace.Alike original) Eq
      ((Workspace.normalizeBlock spaces vars swap).adaptExcept
        fun error => LoadError.inBlock phase block (.layout error))
      ((Workspace.normalizeBlock spaces vars false).adaptExcept
        fun error => LoadError.inBlock phase block (.layout error)) := by
    intro swap left right alike
    have adapted : ∀ (action : BlockAction Unit) workspace,
        (action.adaptExcept fun error => LoadError.inBlock phase block (.layout error)) workspace =
          embedded (fun error => LoadError.inBlock phase block (.layout error)) id
            (action workspace) := by
      intro action workspace
      unfold EStateM.adaptExcept
      cases action workspace <;> rfl
    have ends := Workspace.normalizeBlock_alike
      (excuse ∘ fun error => LoadError.inBlock phase block (.layout error)) spaces vars swap
      original left right alike
    rw [adapted, adapted]
    exact ends.embedded fun _ _ after => after
  cases pass with
  | skip => exact absurd rfl looks
  | check => exact placed false
  | swap => exact placed true

/-- Each error of a pass is an error of a layout, placed in the block. -/
theorem placed_of_run_error {pass : Pass} {spaces : List VariableSpace} {phase : Phase}
    {block : DataBlock} {vars : List Variable} {workspace after : Workspace} {error : LoadError}
    (failed : pass.run spaces phase block vars workspace = .error error after) :
    ∃ reason, error = .inBlock phase block (.layout reason) := by
  have placed : ∀ action : BlockAction Unit,
      action.adaptExcept (fun error => LoadError.inBlock phase block (.layout error)) workspace =
        .error error after → ∃ reason, error = .inBlock phase block (.layout reason) := by
    intro action failed
    unfold EStateM.adaptExcept at failed
    cases outcome : action workspace with
    | ok value found =>
      rw [outcome] at failed
      cases failed
    | error reason found =>
      rw [outcome] at failed
      cases failed
      exact ⟨reason, rfl⟩
  cases pass with
  | skip => cases failed
  | check => exact placed _ failed
  | swap => exact placed _ failed

theorem inBlock_of_run_error {pass : Pass} {spaces : List VariableSpace} {phase : Phase}
    {block : DataBlock} {vars : List Variable} {workspace after : Workspace} {error : LoadError}
    (failed : pass.run spaces phase block vars workspace = .error error after) :
    InBlock error := by
  rcases placed_of_run_error failed with ⟨reason, same⟩
  exact ⟨phase, block, .layout reason, same⟩

end Pass

namespace Load

/-- The blocks of two loads correspond, and so do their sizes where both go on using them. -/
structure PassesAlike (excuse : LoadError → Prop) (data : List UInt8 → List UInt8 → Prop)
    (blocks : Workspace → Workspace → Prop) (left right : Pass) : Prop where
  data : ∀ {v w}, blocks v w → data v.bytes w.bytes
  fresh : ∀ bytes, blocks ⟨[], bytes⟩ ⟨[], bytes⟩
  next : ∀ {v w} bytes, blocks v w → blocks ⟨v.sizes, bytes⟩ ⟨w.sizes, bytes⟩
  normalize : ∀ spaces phase block vars {v w}, blocks v w →
    Coupled excuse Eq blocks (Load.normalize left spaces phase block vars v)
      (Load.normalize right spaces phase block vars w)

def SameLength (left right : List UInt8) : Prop :=
  left.length = right.length

theorem normalize_check {excuse : LoadError → Prop} {pass : Pass} (looks : pass ≠ .skip)
    (spaces : List VariableSpace) (phase : Phase) (block : DataBlock) (vars : List Variable)
    {original : List UInt8} {v w : Workspace} (alike : Workspace.Alike original v w) :
    Coupled excuse Eq (Workspace.Alike original) (normalize pass spaces phase block vars v)
      (normalize .check spaces phase block vars w) := by
  rintro reader _ rfl
  have ends := Pass.run_alike excuse looks spaces phase block vars original v w alike
  unfold normalize
  revert ends
  cases pass.run spaces phase block vars v <;>
    cases Pass.run .check spaces phase block vars w <;> intro ends
  · exact ⟨ends.2, rfl⟩
  · exact ends
  · exact ends
  · exact ends.imp (fun both => ⟨both.1, rfl⟩) id

/-- Whatever a looking pass does to the blocks, the pass that only checks them does not notice. -/
theorem passesAlike_check {pass : Pass} (looks : pass ≠ .skip) :
    PassesAlike noExcuse SameLength
      (fun v w => v.sizes = w.sizes ∧ SameLength v.bytes w.bytes) pass .check where
  data alike := alike.2
  fresh bytes := ⟨rfl, rfl⟩
  next bytes alike := ⟨alike.1, rfl⟩
  normalize := by
    intro spaces phase block vars v w alike
    have start : Workspace.Alike w.bytes v w := ⟨alike.1, rfl, alike.2⟩
    apply (normalize_check looks spaces phase block vars start).weaken
    intro a b after
    refine ⟨after.sizes, ?_⟩
    unfold SameLength
    rw [after.keeps]
    exact after.length

/-- Checking changes nothing unless it ends the load. -/
theorem passesAlike_skip :
    PassesAlike Pass.InBlock Eq (fun v w => v.bytes = w.bytes) .check .skip where
  data alike := alike
  fresh bytes := rfl
  next bytes alike := rfl
  normalize := by
    rintro spaces phase block vars v w alike reader _ rfl
    have start : Workspace.Alike v.bytes v v := ⟨rfl, rfl, rfl⟩
    have checks : Pass.check ≠ .skip := by decide
    have kept := Pass.run_alike noExcuse checks spaces phase block vars v.bytes v v start
    have placed := @Pass.inBlock_of_run_error .check spaces phase block vars v
    change EndAlike _ _ _ _ (.ok w reader)
    unfold normalize
    revert kept placed
    cases Pass.run .check spaces phase block vars v with
    | ok value after =>
      intro kept _
      exact ⟨kept.2.keeps.trans alike, rfl⟩
    | error error after =>
      intro _ placed
      exact placed rfl

end Load

end CompiledModule
