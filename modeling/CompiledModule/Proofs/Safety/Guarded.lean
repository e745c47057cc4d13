import CompiledModule.FieldParser
import CompiledModule.Proofs.TwoRuns

namespace CompiledModule

/-!
# Runs that ask before every operation

The numbers of a load are natural numbers here, and a list answers for every index.  A machine is
stricter.  Its numbers have 64 bits, a slice of a block has to lie inside the block, and an index
inside its list; where the code does not ask first, a run that breaks one of these rules ends in a
panic.

A guarded action is written as the code is: it asks before every such operation and panics if the
operation is not possible.  Errors that the code reports are reported by both.  The two agree when
the guarded action, from every state that is in order, does what the plain one does.  It does not
panic then, since the plain one cannot, and what it leaves is in order again.
-/

variable {ε σ α β : Type}

/-- Why a guarded run has ended without a result. -/
inductive Halt (ε : Type) where
  /-- An operation was not possible. -/
  | panic
  /-- The run has failed with an error. -/
  | error (cause : ε)
  deriving DecidableEq, Repr

/-- An action that may fail or panic. -/
abbrev Guarded (ε σ : Type) := EStateM (Halt ε) σ

namespace Guarded

/-! ## Operations -/

/-- Panics unless the operation is possible. -/
def demand (possible : Prop) [Decidable possible] : Except (Halt ε) Unit :=
  if possible then .ok () else .error .panic

/-- An addition without a check. -/
def sum (left right : Nat) : Except (Halt ε) Nat := do
  demand (left + right < sizeLimit)
  return left + right

/-- A subtraction without a check. -/
def difference (left right : Nat) : Except (Halt ε) Nat := do
  demand (right ≤ left)
  return left - right

/-- A multiplication without a check. -/
def product (left right : Nat) : Except (Halt ε) Nat := do
  demand (left * right < sizeLimit)
  return left * right

def slice (elements : List α) (start finish : Nat) : Except (Halt ε) (List α) := do
  demand (start ≤ finish ∧ finish ≤ elements.length)
  return (elements.take finish).drop start

def element (elements : Array α) (index : Nat) : Except (Halt ε) α :=
  match elements[index]? with
  | some element => .ok element
  | none => .error .panic

/-- The value of bytes that have to be there and have to be used up. -/
def parse (parser : FieldParser α) (bytes : List UInt8) : Except (Halt ε) α :=
  match parser bytes with
  | some (value, []) => .ok value
  | _ => .error .panic

theorem demand_eq {possible : Prop} [Decidable possible] (holds : possible) :
    (demand possible : Except (Halt ε) Unit) = .ok () :=
  if_pos holds

theorem sum_eq {left right : Nat} (fits : left + right < sizeLimit) :
    (sum left right : Except (Halt ε) Nat) = .ok (left + right) := by
  rw [sum, demand_eq fits]
  rfl

/-- The largest number has no successor. -/
example : (sum (sizeLimit - 1) 1 : Except (Halt LoadError) Nat) = .error .panic := rfl

theorem difference_eq {left right : Nat} (fits : right ≤ left) :
    (difference left right : Except (Halt ε) Nat) = .ok (left - right) := by
  rw [difference, demand_eq fits]
  rfl

theorem product_eq {left right : Nat} (fits : left * right < sizeLimit) :
    (product left right : Except (Halt ε) Nat) = .ok (left * right) := by
  rw [product, demand_eq fits]
  rfl

theorem slice_eq {elements : List α} {start finish : Nat}
    (inside : start ≤ finish ∧ finish ≤ elements.length) :
    (slice elements start finish : Except (Halt ε) (List α)) =
      .ok ((elements.take finish).drop start) := by
  rw [slice, demand_eq inside]
  rfl

theorem element_eq {elements : Array α} {index : Nat} {found : α}
    (inside : elements[index]? = some found) :
    (element elements index : Except (Halt ε) α) = .ok found := by
  rw [element, inside]

theorem parse_eq {parser : FieldParser α} {bytes : List UInt8} {value : α}
    (parsed : parser bytes = some (value, [])) :
    (parse parser bytes : Except (Halt ε) α) = .ok value := by
  rw [parse, parsed]

/-! ## Plain actions -/

/-- An action that asks for everything itself. -/
def plain (action : EStateM ε σ α) : Guarded ε σ α :=
  action.adaptExcept .error

theorem plain_throw (error : ε) :
    plain (throw error : EStateM ε σ α) = throw (.error error) := rfl

theorem plain_bind (action : EStateM ε σ α) (next : α → EStateM ε σ β) :
    plain (action >>= next) = plain action >>= fun value => plain (next value) := by
  funext state
  simp only [plain, EStateM.adaptExcept, bind, EStateM.bind]
  cases action state <;> rfl

/-- What the guarded run of a plain action comes to. -/
theorem plain_eq_ok {action : EStateM ε σ α} {state after : σ} {value : α} :
    plain action state = .ok value after ↔ action state = .ok value after := by
  unfold plain EStateM.adaptExcept
  cases action state <;> simp

end Guarded

/-! ## Agreement -/

/-- From states that are in order the guarded action does what the plain one does, with a result that
is in order, and leaves a state that is in order. -/
def Agrees (valid : σ → Prop) (post : α → Prop) (guarded : Guarded ε σ α)
    (action : EStateM ε σ α) : Prop :=
  Coupled noExcuse (fun s t => s = t ∧ valid t) (fun a b => a = b ∧ post b) guarded
    (Guarded.plain action)

def Unrestricted (_ : α) : Prop := True

variable {valid : σ → Prop} {post : α → Prop} {guarded : Guarded ε σ α} {action : EStateM ε σ α}

namespace Agrees

/-- In a state that is in order the two end in the same way. -/
theorem run_eq (agrees : Agrees valid post guarded action) {state : σ} (inOrder : valid state) :
    guarded state = Guarded.plain action state := by
  have ends := agrees state state ⟨rfl, inOrder⟩
  revert ends
  cases guarded state with
  | ok value after =>
    cases Guarded.plain action state with
    | ok value' after' =>
      rintro ⟨⟨rfl, -⟩, rfl, -⟩
      rfl
    | error halt after' => exact False.elim
  | error halt after =>
    cases Guarded.plain action state with
    | ok value' after' => exact False.elim
    | error halt' after' =>
      intro ends
      rcases ends.resolve_right id with ⟨rfl, rfl, -⟩
      rfl

/-- A result is in order. -/
theorem result (agrees : Agrees valid post guarded action) {state after : σ} {value : α}
    (inOrder : valid state) (ran : action state = .ok value after) : post value := by
  have ends := agrees state state ⟨rfl, inOrder⟩
  rw [Guarded.plain_eq_ok.mpr ran] at ends
  rcases ends.left_ok with ⟨_, _, _, ⟨-, good⟩, -⟩
  exact good

theorem weaken {looser : α → Prop} (agrees : Agrees valid post guarded action)
    (implies : ∀ value, post value → looser value) : Agrees valid looser guarded action :=
  Coupled.weaken agrees fun _ _ related => ⟨related.1, implies _ related.2⟩

theorem pure {value : α} (good : post value) :
    Agrees valid post (pure value : Guarded ε σ α) (pure value) :=
  Coupled.pure ⟨rfl, good⟩

theorem throw (error : ε) :
    Agrees valid post (throw (.error error) : Guarded ε σ α) (throw error) := by
  unfold Agrees
  rw [Guarded.plain_throw]
  exact Coupled.throw (Halt.error error)

theorem bind {mid : α → Prop} {post : β → Prop} {next : α → Guarded ε σ β}
    {other : α → EStateM ε σ β} (first : Agrees valid mid guarded action)
    (rest : ∀ value, mid value → Agrees valid post (next value) (other value)) :
    Agrees valid post (guarded >>= next) (action >>= other) := by
  unfold Agrees
  rw [Guarded.plain_bind]
  apply Coupled.bind first
  rintro value _ ⟨rfl, good⟩
  exact rest value good

/-- Nothing comes after an error. -/
theorem throw_bind {post : β → Prop} (error : ε) (next : α → Guarded ε σ β)
    (other : α → EStateM ε σ β) :
    Agrees valid post ((MonadExcept.throw (Halt.error error) : Guarded ε σ α) >>= next)
      ((MonadExcept.throw error : EStateM ε σ α) >>= other) :=
  have stops : Agrees valid (fun _ => False) _ _ := throw error
  stops.bind fun _ impossible => impossible.elim

/-- An action that only asks for what is there agrees with itself when it leaves everything in
order. -/
theorem plain (keeps : ∀ state, valid state → match action state with
      | .ok value after => post value ∧ valid after
      | .error _ after => valid after) :
    Agrees valid post (Guarded.plain action) action := by
  rintro state _ ⟨rfl, inOrder⟩
  have kept := keeps state inOrder
  revert kept
  unfold Guarded.plain EStateM.adaptExcept
  cases action state with
  | ok value after =>
    intro kept
    exact ⟨⟨rfl, kept.1⟩, rfl, kept.2⟩
  | error error after =>
    intro kept
    exact Or.inl ⟨rfl, rfl, kept⟩

/-- A computation without a state is as good as its outcome. -/
theorem outcome (outcome : Except ε α) :
    Agrees valid (fun value => outcome = .ok value) (Guarded.plain (settle outcome))
      (settle outcome) := by
  cases outcome with
  | ok value => exact pure rfl
  | error error => exact throw error

theorem checked (computed : Except ε α) :
    Agrees valid Unrestricted (Guarded.plain (CompiledModule.settle computed))
      (CompiledModule.settle computed) :=
  (outcome computed).weaken fun _ _ => trivial

theorem settle {outcome : Except (Halt ε) α} {value : α} (possible : outcome = .ok value)
    (good : post value) : Agrees valid post (settle outcome) (Pure.pure value) := by
  rw [possible]
  exact pure good

/-- An operation that is possible is no obstacle. -/
theorem settle_bind {post : β → Prop} {outcome : Except (Halt ε) α} {value : α}
    {next : α → Guarded ε σ β} {action : EStateM ε σ β} (possible : outcome = .ok value)
    (rest : Agrees valid post (next value) action) :
    Agrees valid post (CompiledModule.settle outcome >>= next) action := by
  rw [possible]
  exact rest

theorem get_bind {post : β → Prop} {next : σ → Guarded ε σ β} {other : σ → EStateM ε σ β}
    (rest : ∀ state, valid state → Agrees valid post (next state) (other state)) :
    Agrees valid post (get >>= next) (get >>= other) := by
  rintro state _ ⟨rfl, inOrder⟩
  exact rest state inOrder state state ⟨rfl, inOrder⟩

theorem set {next : σ} (inOrder : valid next) :
    Agrees valid Unrestricted (MonadStateOf.set next : Guarded ε σ PUnit) (MonadStateOf.set next) :=
  fun _ _ _ => ⟨⟨rfl, trivial⟩, rfl, inOrder⟩

theorem modify {function : σ → σ} (keeps : ∀ state, valid state → valid (function state)) :
    Agrees valid Unrestricted (modify function : Guarded ε σ PUnit) (modify function) := by
  rintro state _ ⟨rfl, inOrder⟩
  exact ⟨⟨rfl, trivial⟩, rfl, keeps state inOrder⟩

end Agrees

end CompiledModule
