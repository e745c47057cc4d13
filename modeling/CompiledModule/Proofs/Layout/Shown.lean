import CompiledModule.Layout.Recorder
import CompiledModule.Proofs.Layout.History
import CompiledModule.Proofs.Layout.Reversal

namespace CompiledModule

/-!
# What a walk has shown

A visitor can keep a log of what it is shown and still answer as before.  A walk with the log ends
like the walk without it, with the same sizes found and the same state of the visitor, and it leaves
the log behind: the runs and spans in the order in which they were shown, with the one that was
refused as the last, if the walk has ended with a refusal.

The log can be kept of any visitor.  For the editor of a block it tells which runs were reversed.
-/

variable {ε σ : Type} {spaces : List VariableSpace}

/-- An action that is shown something, with what it is shown added to a log. -/
def logging (event : WalkEvent) (action : EStateM ε σ Unit) :
    EStateM ε (σ × List WalkEvent) Unit := fun (state, log) =>
  match action state with
  | .ok () state => .ok () (state, log ++ [event])
  | .error error state => .error error (state, log ++ [event])

def Visitor.logged (visitor : Visitor ε σ) : Visitor ε (σ × List WalkEvent) where
  entersStructs := visitor.entersStructs
  visit offset width count := logging (.run offset width count) (visitor.visit offset width count)
  checkSpan offset length := logging (.span offset length) (visitor.checkSpan offset length)

def runsOf (log : List WalkEvent) : List ScalarRun :=
  log.filterMap fun
    | .run offset width count => some ⟨offset, width, count⟩
    | .span _ _ => none

theorem mem_runsOf {log : List WalkEvent} {run : ScalarRun} :
    run ∈ runsOf log ↔ .run run.offset run.width run.count ∈ log := by
  rw [runsOf, List.mem_filterMap]
  constructor
  · intro found
    rcases found with ⟨event, member, same⟩
    cases event with
    | run offset width count =>
      cases same
      exact member
    | span offset length => cases same
  · intro member
    exact ⟨_, member, rfl⟩

@[simp] theorem runsOf_run (log : List WalkEvent) (offset width count : Nat) :
    runsOf (log ++ [.run offset width count]) = runsOf log ++ [⟨offset, width, count⟩] := by
  simp [runsOf]

@[simp] theorem runsOf_span (log : List WalkEvent) (offset length : Nat) :
    runsOf (log ++ [.span offset length]) = runsOf log := by
  simp [runsOf]

/-- The runs that are shown when the variables of a block are walked. -/
def Workspace.shownRuns (spaces : List VariableSpace) (vars : List Variable) (swap : Bool)
    (workspace : Workspace) : List ScalarRun :=
  let start : Walked (BlockEditor × List WalkEvent) :=
    ⟨workspace.sizes, .ofBlock workspace.bytes swap, []⟩
  runsOf (leftBy (Walk.block spaces BlockEditor.visitor.logged vars start)).state.2

/-! ## The log changes nothing -/

theorem logging_coupled {excuse : ε → Prop} (event : WalkEvent)
    (action : EStateM ε σ Unit) :
    Coupled excuse (fun state logged => state = logged.1) Eq action (logging event action) := by
  rintro state ⟨_, log⟩ rfl
  simp only [logging]
  cases action state with
  | ok _ after => exact ⟨rfl, rfl⟩
  | error error after => exact Or.inl ⟨rfl, rfl⟩

theorem Visitor.logged_alike {excuse : ε → Prop} (visitor : Visitor ε σ) :
    visitor.Alike excuse (fun state logged => state = logged.1) visitor.logged where
  enters := rfl
  visit _ _ _ := logging_coupled _ _
  checkSpan _ _ := logging_coupled _ _

namespace Walk

theorem block_logged [LayoutFailure ε] {start : SizeCache} (sound : start.Sound spaces)
    (visitor : Visitor ε σ) (vars : List Variable) (state : σ) (log : List WalkEvent) :
    EndAlike noExcuse
      (Walked.Alike (SizeCache.Grown spaces start) fun state logged => state = logged.1) Eq
      (block spaces visitor vars ⟨start, state⟩)
      (block spaces visitor.logged vars ⟨start, state, log⟩) :=
  block_alike visitor.logged_alike (sizesAlike_grown spaces start) (fun _ _ _ _ => trivial) _ _
    ⟨⟨rfl, sound.trails⟩, rfl⟩

end Walk

end CompiledModule
