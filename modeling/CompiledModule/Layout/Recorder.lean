import CompiledModule.Layout.Walk

namespace CompiledModule

/-!
# Recording a walk

A recorder is a visitor that keeps what it is shown, in order, and changes nothing.  It tells which
runs a walk takes a value apart into.  A recorder has room for so many runs and fails at the next
one, since a walk may have more runs than anybody wants to see.
-/

/-- What a visitor is shown: a run of scalars, or the span of a run of structs. -/
inductive WalkEvent where
  | run (offset width count : Nat)
  | span (offset length : Nat)
  deriving DecidableEq, Repr

/-- What has been recorded, and how many more runs there is room for. -/
structure Recording where
  events : Array WalkEvent
  room : Nat
  deriving DecidableEq, Repr

namespace Recording

/-- A recording of nothing with room for `limit` runs. -/
def ofLimit (limit : Nat) : Recording :=
  ⟨#[], limit⟩

/-- Keeps a run of scalars, if there is room for it. -/
def visit (limit offset width count : Nat) : EStateM LayoutError Recording Unit
  | ⟨events, 0⟩ => .error (.tooComplex limit) ⟨events, 0⟩
  | ⟨events, room + 1⟩ => .ok () ⟨events.push (.run offset width count), room⟩

def keepSpan (offset length : Nat) : EStateM LayoutError Recording Unit
  | ⟨events, room⟩ => .ok () ⟨events.push (.span offset length), room⟩

end Recording

/-- Keeps runs up to a limit, and spans if `keepsSpans` says so. -/
def Visitor.recorder (entersStructs keepsSpans : Bool) (limit : Nat) :
    Visitor LayoutError Recording where
  entersStructs
  visit := Recording.visit limit
  checkSpan offset length := if keepsSpans then Recording.keepSpan offset length else pure ()

end CompiledModule
