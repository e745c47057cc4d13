import CompiledModule.Proofs.Layout.Expansion

namespace CompiledModule

/-!
# Showing what is planned

A walk is an effectful recursion that may stop anywhere: its visitor may refuse what it is shown,
and between two things that it shows the walk itself checks offsets and levels.  What it shows can
nevertheless be known beforehand, as a list of runs and spans that are shown in order up to the
point where the walk stops, and all of them if it has a result.

`Shows` states this of a run: it has shown all that was planned, or the visitor has refused a part
of it, or a check has stopped the run behind a part of it.  Its rules follow the ways in which walks
are put together, so that only the type at hand has to be looked at.
-/

variable {ε σ α β : Type} {visitor : Visitor ε σ}

/-! ## Showing a list -/

def Visitor.see (visitor : Visitor ε σ) : WalkEvent → EStateM ε σ Unit
  | .run offset width count => visitor.visit offset width count
  | .span offset length => visitor.checkSpan offset length

/-- Shows a list to a visitor, up to the first thing that it refuses. -/
def Visitor.seeAll (visitor : Visitor ε σ) : List WalkEvent → EStateM ε σ Unit
  | [] => pure ()
  | event :: rest => do
    visitor.see event
    visitor.seeAll rest

theorem Visitor.seeAll_append (visitor : Visitor ε σ) (events rest : List WalkEvent) :
    visitor.seeAll (events ++ rest) = visitor.seeAll events >>= fun _ => visitor.seeAll rest := by
  induction events with
  | nil => rfl
  | cons event others ih =>
    rw [List.cons_append, seeAll, seeAll, ih, bind_assoc]

theorem Visitor.seeAll_one (visitor : Visitor ε σ) (event : WalkEvent) :
    visitor.seeAll [event] = visitor.see event := by
  funext state
  rw [seeAll, seeAll]
  cases ran : visitor.see event state with
  | ok _ after =>
    rw [run_bind_of_ok ran]
    rfl
  | error error after => rw [run_bind_of_error ran]

/-! ## What a run has shown -/

variable [LayoutFailure ε]

/-- What a run has come to that planned to show these events to a visitor in this state.  A check
may stop it with certain errors, and a result has a property.  The sizes are the same at its end. -/
inductive Shows (visitor : Visitor ε σ) (sizes : SizeCache) (state : σ) (events : List WalkEvent)
    (stops : LayoutError → Prop) (property : α → Prop) :
    EStateM.Result ε (Walked σ) α → Prop
  | ended {value : α} {after : σ} (shown : visitor.seeAll events state = .ok () after)
    (holds : property value) :
    Shows visitor sizes state events stops property (.ok value ⟨sizes, after⟩)
  | refused {seen : List WalkEvent} {error : ε} {after : σ} (planned : seen <+: events)
    (refusal : visitor.seeAll seen state = .error error after) :
    Shows visitor sizes state events stops property (.error error ⟨sizes, after⟩)
  | stopped {seen : List WalkEvent} {error : LayoutError} {after : σ} (planned : seen <+: events)
    (shown : visitor.seeAll seen state = .ok () after) (cause : stops error) :
    Shows visitor sizes state events stops property
      (.error (LayoutFailure.ofLayout error) ⟨sizes, after⟩)

/-- The walk shows these events, in whatever state the visitor is. -/
def Showing (visitor : Visitor ε σ) (sizes : SizeCache) (walk : Walk ε σ α)
    (events : List WalkEvent) (stops : LayoutError → Prop) (property : α → Prop) : Prop :=
  ∀ state, Shows visitor sizes state events stops property (walk ⟨sizes, state⟩)

section Rules

variable {sizes : SizeCache} {events more : List WalkEvent} {stops wider : LayoutError → Prop}
  {property : α → Prop} {result : β → Prop} {state : σ}

theorem Shows.weaken {weaker : α → Prop} {ran : EStateM.Result ε (Walked σ) α}
    (shows' : Shows visitor sizes state events stops property ran)
    (causes : ∀ error, stops error → wider error)
    (implies : ∀ value, property value → weaker value) :
    Shows visitor sizes state events wider weaker ran := by
  cases shows' with
  | ended shown holds => exact .ended shown (implies _ holds)
  | refused planned refusal => exact .refused planned refusal
  | stopped planned shown cause => exact .stopped planned shown (causes _ cause)

/-- What has been shown before comes first. -/
theorem Shows.behind {middle : σ} {ran : EStateM.Result ε (Walked σ) β}
    (before : visitor.seeAll events state = .ok () middle)
    (shows' : Shows visitor sizes middle more stops result ran) :
    Shows visitor sizes state (events ++ more) stops result ran := by
  have joined : ∀ seen, visitor.seeAll (events ++ seen) state = visitor.seeAll seen middle := by
    intro seen
    rw [Visitor.seeAll_append, run_bind_of_ok before]
  cases shows' with
  | ended shown holds => exact .ended ((joined more).trans shown) holds
  | @refused seen error after planned refusal =>
    exact .refused ((List.prefix_append_right_inj events).mpr planned) ((joined seen).trans refusal)
  | @stopped seen error after planned shown cause =>
    exact .stopped ((List.prefix_append_right_inj events).mpr planned) ((joined seen).trans shown)
      cause

namespace Showing

theorem weaken {weaker : α → Prop} {walk : Walk ε σ α}
    (showing : Showing visitor sizes walk events stops property)
    (causes : ∀ error, stops error → wider error)
    (implies : ∀ value, property value → weaker value) :
    Showing visitor sizes walk events wider weaker :=
  fun state => (showing state).weaken causes implies

theorem pure {value : α} (holds : property value) :
    Showing visitor sizes (pure value) [] stops property :=
  fun _ => .ended rfl holds

theorem throw {error : LayoutError} (cause : stops error) (events : List WalkEvent) :
    Showing visitor sizes (throw (LayoutFailure.ofLayout error)) events stops property :=
  fun _ => .stopped List.nil_prefix rfl cause

theorem bind {walk : Walk ε σ α} {next : α → Walk ε σ β}
    (first : Showing visitor sizes walk events stops property)
    (rest : ∀ value, property value → Showing visitor sizes (next value) more stops result) :
    Showing visitor sizes (walk >>= next) (events ++ more) stops result := by
  intro state
  have began := first state
  cases ran : walk ⟨sizes, state⟩ with
  | ok value middle =>
    rw [ran] at began
    rw [run_bind_of_ok ran]
    cases began with
    | ended shown holds => exact (rest value holds _).behind shown
  | error error after =>
    rw [ran] at began
    rw [run_bind_of_error ran]
    cases began with
    | refused planned refusal => exact .refused (planned.trans (List.prefix_append _ _)) refusal
    | stopped planned shown cause =>
      exact .stopped (planned.trans (List.prefix_append _ _)) shown cause

/-- What comes before shows nothing. -/
theorem quiet_bind {walk : Walk ε σ α} {next : α → Walk ε σ β}
    (first : Showing visitor sizes walk [] stops property)
    (rest : ∀ value, property value → Showing visitor sizes (next value) events stops result) :
    Showing visitor sizes (walk >>= next) events stops result :=
  first.bind rest

/-- What comes behind shows nothing. -/
theorem bind_quiet {walk : Walk ε σ α} {next : α → Walk ε σ β}
    (first : Showing visitor sizes walk events stops property)
    (rest : ∀ value, property value → Showing visitor sizes (next value) [] stops result) :
    Showing visitor sizes (walk >>= next) events stops result := by
  rw [← List.append_nil events]
  exact first.bind rest

theorem bind_settle {outcome : Except LayoutError α} {next : α → Walk ε σ β}
    (causes : ∀ error, outcome = .error error → stops error)
    (rest : ∀ value, outcome = .ok value → Showing visitor sizes (next value) events stops result) :
    Showing visitor sizes (Walk.settle outcome >>= next) events stops result := by
  cases outcome with
  | ok value => exact rest value rfl
  | error error =>
    intro state
    exact .stopped List.nil_prefix rfl (causes error rfl)

theorem see (event : WalkEvent) :
    Showing visitor sizes (Walk.showing (visitor.see event)) [event] stops fun _ => True := by
  intro state
  have seen := visitor.seeAll_one event
  rw [Walk.showing_eq]
  cases ran : visitor.see event state with
  | ok _ after => exact .ended (by rw [seen, ran]) trivial
  | error error after =>
    have refusal : visitor.seeAll [event] state = .error error after := by rw [seen, ran]
    exact .refused (List.prefix_refl _) refusal

/-- A size that is known is found without changing anything. -/
theorem measuring {action : Measure α} {value : α} (known : action sizes = .ok value sizes) :
    Showing visitor sizes (Walk.measuring action) [] stops fun found => found = value := by
  intro state
  rw [Walk.measuring_eq, known]
  exact .ended rfl rfl

/-- The members of one struct are shown one after the other. -/
theorem members {value : Nat → TypeDescriptor → Walk ε σ Nat}
    {inner : Nat → TypeDescriptor → List WalkEvent} {base : Nat} {parts : VariableSpace}
    {holds : Variable → Prop}
    (large : ∀ part ∈ parts, sizeLimit ≤ base + part.offset.toNat → stops .overflow)
    (values : ∀ part ∈ parts, Showing visitor sizes (value (base + part.offset.toNat) part.type)
      (inner (base + part.offset.toNat) part.type) stops fun _ => holds part) :
    Showing visitor sizes (Walk.members value base parts) (memberEvents inner parts base) stops
      fun _ => ∀ part ∈ parts, holds part := by
  induction parts with
  | nil => exact pure fun _ impossible => absurd impossible List.not_mem_nil
  | cons part rest ih =>
    apply bind_settle
    · intro error failed
      rcases sizeSum_eq_error.mp failed with ⟨past, rfl⟩
      exact large part List.mem_cons_self past
    intro offset added
    rcases sizeSum_eq_ok.mp added with ⟨rfl, -⟩
    apply (values part List.mem_cons_self).bind
    intro _ first
    have others := ih (fun other member => large other (List.mem_cons_of_mem _ member))
      fun other member => values other (List.mem_cons_of_mem _ member)
    exact others.weaken (fun _ cause => cause) fun _ rest => List.forall_mem_cons.mpr ⟨first, rest⟩

/-- Structs are shown one after the other. -/
theorem instances {struct : Nat → Walk ε σ Unit} {pieces : Nat → List WalkEvent} {holds : Prop}
    {size count base : Nat}
    (large : sizeLimit ≤ base + count * size → stops .overflow)
    (structs : ∀ number < count, Showing visitor sizes (struct (base + number * size))
      (pieces (base + number * size)) stops fun _ => holds) :
    Showing visitor sizes (Walk.instances struct size count base)
      ((List.range count).flatMap fun number => pieces (base + number * size)) stops
      fun _ => 0 < count → holds := by
  induction count generalizing base with
  | zero => exact pure fun impossible => absurd impossible (Nat.lt_irrefl 0)
  | succ count ih =>
    have next : ∀ number, base + size + number * size = base + (number + 1) * size := by
      intro number
      rw [Nat.succ_mul]
      omega
    have first := structs 0 (Nat.zero_lt_succ count)
    rw [Nat.zero_mul, Nat.add_zero] at first
    rw [List.range_succ_eq_map, List.flatMap_cons, List.flatMap_map, Nat.zero_mul, Nat.add_zero]
    apply first.bind
    intro _ held
    apply bind_settle
    · intro error failed
      rcases sizeSum_eq_error.mp failed with ⟨past, rfl⟩
      apply large
      rw [← next]
      omega
    intro after added
    rcases sizeSum_eq_ok.mp added with ⟨rfl, -⟩
    simp only [Nat.succ_eq_add_one, ← next]
    have rest := ih (fun past => large (by rwa [← next])) fun number below => by
      have shows' := structs (number + 1) (Nat.succ_lt_succ below)
      rwa [← next] at shows'
    exact rest.weaken (fun _ cause => cause) fun _ _ _ => held

end Showing

end Rules

end CompiledModule
