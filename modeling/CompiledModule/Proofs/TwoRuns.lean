import CompiledModule.Layout.Walk

namespace CompiledModule

/-!
# Two runs side by side

Many properties of a load compare two runs: on hosts of different byte orders, from different
places of a stream, with different sizes remembered.  The runs are not equal, but they keep step:
from states that correspond they end alike, both with results or both with the same error, and in
states that correspond again.

`Coupled` states this of two actions, and its rules follow the ways in which actions are put
together, so a comparison has to be made only for the actions on which two runs differ.  Which
states correspond is left to the comparison, and so are its excuses: errors of the first run after
which nothing more is asked of the second one.
-/

variable {ε σ τ α β γ δ : Type}

/-- What a run has come to, without what it leaves behind. -/
def outcomeOf : EStateM.Result ε σ α → Except ε α
  | .ok value _ => .ok value
  | .error error _ => .error error

/-- What a run leaves behind, whatever it has come to. -/
def leftBy : EStateM.Result ε σ α → σ
  | .ok _ state => state
  | .error _ state => state

theorem result_eq_ok {ended : EStateM.Result ε σ α} {value : α} {state : σ} :
    ended = .ok value state ↔ outcomeOf ended = .ok value ∧ leftBy ended = state := by
  cases ended <;> simp [outcomeOf, leftBy]

theorem outcomeOf_eq_error {ended : EStateM.Result ε σ α} {error : ε} :
    outcomeOf ended = .error error ↔ ∃ state, ended = .error error state := by
  cases ended <;> simp [outcomeOf]

theorem run_bind_of_ok {action : EStateM ε σ α} {next : α → EStateM ε σ β} {state middle : σ}
    {value : α} (ended : action state = .ok value middle) :
    (action >>= next) state = next value middle := by
  change EStateM.bind action next state = _
  rw [EStateM.bind, ended]

theorem run_bind_of_error {action : EStateM ε σ α} {next : α → EStateM ε σ β} {state after : σ}
    {error : ε} (ended : action state = .error error after) :
    (action >>= next) state = .error error after := by
  change EStateM.bind action next state = _
  rw [EStateM.bind, ended]

theorem run_bind_eq_ok {action : EStateM ε σ α} {next : α → EStateM ε σ β} {state after : σ}
    {result : β} :
    (action >>= next) state = .ok result after ↔
      ∃ value middle, action state = .ok value middle ∧ next value middle = .ok result after := by
  constructor
  · intro ended
    cases began : action state with
    | ok value middle =>
      rw [run_bind_of_ok began] at ended
      exact ⟨value, middle, rfl, ended⟩
    | error error middle =>
      rw [run_bind_of_error began] at ended
      cases ended
  · intro split
    rcases split with ⟨value, middle, began, went⟩
    rw [run_bind_of_ok began]
    exact went

theorem run_bind_eq_error {action : EStateM ε σ α} {next : α → EStateM ε σ β} {state after : σ}
    {error : ε} :
    (action >>= next) state = .error error after ↔
      action state = .error error after ∨
        ∃ value middle, action state = .ok value middle ∧ next value middle = .error error after := by
  cases began : action state with
  | ok value middle =>
    rw [run_bind_of_ok began]
    constructor
    · intro went
      exact Or.inr ⟨value, middle, rfl, went⟩
    · rintro (impossible | ⟨_, _, same, went⟩)
      · cases impossible
      · cases same
        exact went
  | error other middle =>
    rw [run_bind_of_error began]
    constructor
    · intro failed
      cases failed
      exact Or.inl rfl
    · rintro (failed | ⟨_, _, impossible, _⟩)
      · cases failed
        rfl
      · cases impossible

theorem settle_eq_ok {outcome : Except ε α} {value : α} {state left : σ} :
    settle outcome state = .ok value left ↔ outcome = .ok value ∧ left = state := by
  cases outcome with
  | ok found =>
    constructor
    · intro ended
      cases ended
      exact ⟨rfl, rfl⟩
    · rintro ⟨same, rfl⟩
      cases same
      rfl
  | error error =>
    constructor
    · intro impossible
      cases impossible
    · rintro ⟨impossible, _⟩
      cases impossible

theorem settle_eq_error {outcome : Except ε α} {error : ε} {state left : σ} :
    settle outcome state = .error error left ↔ outcome = .error error ∧ left = state := by
  cases outcome with
  | ok found =>
    constructor
    · intro impossible
      cases impossible
    · rintro ⟨impossible, _⟩
      cases impossible
  | error other =>
    constructor
    · intro ended
      cases ended
      exact ⟨rfl, rfl⟩
    · rintro ⟨same, rfl⟩
      cases same
      rfl

theorem bind_eq_ok {first : Except ε α} {next : α → Except ε β} {result : β} :
    (first >>= next) = .ok result ↔ ∃ value, first = .ok value ∧ next value = .ok result := by
  cases first with
  | ok value =>
    constructor
    · intro succeeded
      exact ⟨value, rfl, succeeded⟩
    · rintro ⟨_, same, succeeded⟩
      cases same
      exact succeeded
  | error error =>
    constructor
    · intro impossible
      cases impossible
    · rintro ⟨_, impossible, _⟩
      cases impossible

theorem bind_eq_error {first : Except ε α} {next : α → Except ε β} {error : ε} :
    (first >>= next) = .error error ↔
      first = .error error ∨ ∃ value, first = .ok value ∧ next value = .error error := by
  cases first with
  | ok value =>
    change next value = .error error ↔ _
    simp only [reduceCtorEq, Except.ok.injEq, false_or, exists_eq_left']
  | error other =>
    change Except.error other = .error error ↔ _
    simp only [reduceCtorEq, false_and, exists_false, or_false, Except.error.injEq]

theorem map_eq_ok {function : α → β} {first : Except ε α} {result : β} :
    function <$> first = .ok result ↔ ∃ value, first = .ok value ∧ function value = result := by
  cases first with
  | ok value =>
    change Except.ok (function value) = .ok result ↔ _
    simp only [Except.ok.injEq, exists_eq_left']
  | error error =>
    change Except.error error = .ok result ↔ _
    simp only [reduceCtorEq, false_and, exists_false]

theorem map_eq_error {function : α → β} {first : Except ε α} {error : ε} :
    function <$> first = .error error ↔ first = .error error := by
  cases first with
  | ok value =>
    change Except.ok (function value) = .error error ↔ _
    simp only [reduceCtorEq]
  | error other =>
    change Except.error other = .error error ↔ _
    simp only [Except.error.injEq]

/-- Two runs end alike, unless the first one has an excuse. -/
def EndAlike (excuse : ε → Prop) (states : σ → τ → Prop) (values : α → β → Prop) :
    EStateM.Result ε σ α → EStateM.Result ε τ β → Prop
  | .ok a s, .ok b t => values a b ∧ states s t
  | .error e s, .error f t => (e = f ∧ states s t) ∨ excuse e
  | .error e _, .ok _ _ => excuse e
  | .ok _ _, .error _ _ => False

/-- From states that correspond, two actions end alike. -/
def Coupled (excuse : ε → Prop) (states : σ → τ → Prop) (values : α → β → Prop)
    (left : EStateM ε σ α) (right : EStateM ε τ β) : Prop :=
  ∀ s t, states s t → EndAlike excuse states values (left s) (right t)

/-- No error is an excuse. -/
def noExcuse (_ : ε) : Prop := False

variable {excuse : ε → Prop} {states : σ → τ → Prop} {values : α → β → Prop}

theorem EndAlike.excused {e : ε} {s : σ} (excused : excuse e) (right : EStateM.Result ε τ β) :
    EndAlike excuse states values (.error e s) right := by
  cases right with
  | ok b t => exact excused
  | error f t => exact Or.inr excused

theorem EndAlike.weaken {looser : σ → τ → Prop} {left : EStateM.Result ε σ α}
    {right : EStateM.Result ε τ β} (ends : EndAlike excuse states values left right)
    (implies : ∀ s t, states s t → looser s t) : EndAlike excuse looser values left right := by
  revert ends
  cases left <;> cases right <;> intro ends
  · exact ⟨ends.1, implies _ _ ends.2⟩
  · exact ends
  · exact ends
  · exact ends.imp (fun both => ⟨both.1, implies _ _ both.2⟩) id

/-- A run as it is seen from outside: its error is told among others, and what it leaves behind is a
part of something larger. -/
def embedded (raise : ε → ε') (whole : σ → σ') : EStateM.Result ε σ α → EStateM.Result ε' σ' α
  | .ok value state => .ok value (whole state)
  | .error error state => .error (raise error) (whole state)

theorem EndAlike.embedded {raise : ε → ε'} {whole : σ → σ'} {whole' : τ → τ'}
    {excuse' : ε' → Prop} {states' : σ' → τ' → Prop} {left : EStateM.Result ε σ α}
    {right : EStateM.Result ε τ β} (ends : EndAlike (excuse' ∘ raise) states values left right)
    (implies : ∀ s t, states s t → states' (whole s) (whole' t)) :
    EndAlike excuse' states' values (embedded raise whole left) (embedded raise whole' right) := by
  revert ends
  cases left <;> cases right <;> intro ends
  · exact ⟨ends.1, implies _ _ ends.2⟩
  · exact ends
  · exact ends
  · exact ends.imp (fun both => ⟨congrArg raise both.1, implies _ _ both.2⟩) id

/-- When the first run has a result, so has the second. -/
theorem EndAlike.right_ok {a : α} {s : σ} {right : EStateM.Result ε τ β}
    (ends : EndAlike excuse states values (.ok a s) right) :
    ∃ b t, right = .ok b t ∧ values a b ∧ states s t := by
  cases right with
  | ok b t => exact ⟨b, t, rfl, ends⟩
  | error f t => exact ends.elim

/-- Where nothing is excused, the first run has a result when the second has one. -/
theorem EndAlike.left_ok {b : β} {t : τ} {left : EStateM.Result ε σ α}
    (ends : EndAlike noExcuse states values left (.ok b t)) :
    ∃ a s, left = .ok a s ∧ values a b ∧ states s t := by
  cases left with
  | ok a s => exact ⟨a, s, rfl, ends⟩
  | error e s => exact ends.elim

/-- Where nothing is excused, the first run fails as the second one does. -/
theorem EndAlike.left_error {e : ε} {t : τ} {left : EStateM.Result ε σ α}
    (ends : EndAlike noExcuse states values left (.error e t : EStateM.Result ε τ β)) :
    ∃ s, left = .error e s ∧ states s t := by
  cases left with
  | ok a s => exact ends.elim
  | error f s =>
    rcases ends.resolve_right id with ⟨rfl, related⟩
    exact ⟨s, rfl, related⟩

theorem EndAlike.outcome_eq {left : EStateM.Result ε σ α} {right : EStateM.Result ε τ α}
    (ends : EndAlike noExcuse states Eq left right) : outcomeOf left = outcomeOf right := by
  revert ends
  cases left <;> cases right <;> intro ends
  · exact congrArg Except.ok ends.1
  · exact ends.elim
  · exact ends.elim
  · exact congrArg Except.error (ends.resolve_right id).1

theorem EndAlike.left_behind {left : EStateM.Result ε σ α} {right : EStateM.Result ε τ β}
    (ends : EndAlike noExcuse states values left right) : states (leftBy left) (leftBy right) := by
  revert ends
  cases left <;> cases right <;> intro ends
  · exact ends.2
  · exact ends.elim
  · exact ends.elim
  · exact (ends.resolve_right id).2

/-- Runs that have begun alike end alike if what comes next keeps step. -/
theorem EndAlike.bind {mid : γ → δ → Prop} {left : EStateM ε σ γ} {right : EStateM ε τ δ}
    {next : γ → EStateM ε σ α} {other : δ → EStateM ε τ β} {s : σ} {t : τ}
    (first : EndAlike excuse states mid (left s) (right t))
    (rest : ∀ a b, mid a b → Coupled excuse states values (next a) (other b)) :
    EndAlike excuse states values ((left >>= next) s) ((right >>= other) t) := by
  change EndAlike _ _ _ (EStateM.bind left next s) (EStateM.bind right other t)
  unfold EStateM.bind
  revert first
  cases left s with
  | ok a s =>
    cases right t with
    | ok b t =>
      intro first
      exact rest a b first.1 s t first.2
    | error f t =>
      intro first
      exact first.elim
  | error e s =>
    cases right t with
    | ok b t =>
      intro first
      have excused : excuse e := first
      exact EndAlike.excused excused _
    | error f t =>
      intro first
      exact first

namespace Coupled

theorem weaken {wider : α → β → Prop} {left : EStateM ε σ α} {right : EStateM ε τ β}
    (coupled : Coupled excuse states values left right)
    (implies : ∀ a b, values a b → wider a b) : Coupled excuse states wider left right := by
  intro s t start
  have ends := coupled s t start
  revert ends
  cases left s <;> cases right t <;> intro ends
  · exact ⟨implies _ _ ends.1, ends.2⟩
  · exact ends
  · exact ends
  · exact ends

/-- More errors may be excused. -/
theorem excusing {wider : ε → Prop} {left : EStateM ε σ α} {right : EStateM ε τ β}
    (coupled : Coupled excuse states values left right) (implies : ∀ e, excuse e → wider e) :
    Coupled wider states values left right := by
  intro s t start
  have ends := coupled s t start
  revert ends
  cases left s <;> cases right t <;> intro ends
  · exact ends
  · exact ends
  · exact implies _ ends
  · exact ends.imp id (implies _)

theorem pure {a : α} {b : β} (related : values a b) :
    Coupled excuse states values (pure a) (pure b) :=
  fun _ _ start => ⟨related, start⟩

theorem throw (e : ε) : Coupled excuse states values (throw e) (throw e) :=
  fun _ _ start => Or.inl ⟨rfl, start⟩

/-- What comes next has to keep step only for results that are related. -/
theorem bind {mid : γ → δ → Prop} {left : EStateM ε σ γ} {right : EStateM ε τ δ}
    {next : γ → EStateM ε σ α} {other : δ → EStateM ε τ β}
    (first : Coupled excuse states mid left right)
    (rest : ∀ a b, mid a b → Coupled excuse states values (next a) (other b)) :
    Coupled excuse states values (left >>= next) (right >>= other) :=
  fun s t start => (first s t start).bind rest

/-- The first actions have equal results, with which both runs go on. -/
theorem bind_same {left : EStateM ε σ γ} {right : EStateM ε τ γ}
    {next : γ → EStateM ε σ α} {other : γ → EStateM ε τ β}
    (first : Coupled excuse states Eq left right)
    (rest : ∀ a, Coupled excuse states values (next a) (other a)) :
    Coupled excuse states values (left >>= next) (right >>= other) := by
  apply first.bind
  rintro a _ rfl
  exact rest a

/-- An action keeps step with itself from one state. -/
theorem refl (action : EStateM ε σ α) : Coupled excuse Eq Eq action action := by
  rintro s _ rfl
  cases action s with
  | ok a s => exact ⟨rfl, rfl⟩
  | error e s => exact Or.inl ⟨rfl, rfl⟩

/-- A computation without a state has one outcome, whoever runs it. -/
theorem settle (outcome : Except ε α) :
    Coupled excuse states Eq (settle outcome) (settle outcome) := by
  cases outcome with
  | ok value => exact pure rfl
  | error e => exact throw e

theorem bind_settle {outcome : Except ε γ} {next : γ → EStateM ε σ α} {other : γ → EStateM ε τ β}
    (rest : ∀ a, outcome = .ok a → Coupled excuse states values (next a) (other a)) :
    Coupled excuse states values (CompiledModule.settle outcome >>= next)
      (CompiledModule.settle outcome >>= other) := by
  cases outcome with
  | ok value => exact rest value rfl
  | error e => exact throw e

end Coupled

end CompiledModule
