import CompiledModule.Proofs.TwoRuns

namespace CompiledModule

/-!
# Walks that keep step

A walk decides where to go from the spaces, the type, the offset and the sizes of structs, and asks
its visitor only whether to go on.  Two walks over the same spaces therefore keep step as long as
they find the same sizes and their visitors refuse alike: they are shown the same runs and spans
and end alike.

What the visitors do with what they are shown may differ, and so may what the walks remember.  Of
the sizes it is asked only that they agree for the structs that a walk can come to, which are the
structs of the type it starts with and, from there on, the structs of members.
-/

variable {ε σ τ : Type} {excuse : ε → Prop} {states : σ → τ → Prop}
  {caches : SizeCache → SizeCache → Prop}

/-- The type is a run of structs of this space. -/
def TypeDescriptor.RefersTo (type : TypeDescriptor) (space : UInt32) : Prop :=
  ∃ count, type.extent = .ok (.structs space count)

/-- Two visitors that refuse alike. -/
structure Visitor.Alike (excuse : ε → Prop) (states : σ → τ → Prop)
    (left : Visitor ε σ) (right : Visitor ε τ) : Prop where
  enters : left.entersStructs = right.entersStructs
  visit : ∀ offset width count,
    Coupled excuse states Eq (left.visit offset width count) (right.visit offset width count)
  checkSpan : ∀ offset length,
    Coupled excuse states Eq (left.checkSpan offset length) (right.checkSpan offset length)

/-- From caches that correspond the same sizes are found for certain spaces, among which are the
spaces of all their members. -/
structure SizesAlike (excuse : LayoutError → Prop) (spaces : List VariableSpace)
    (caches : SizeCache → SizeCache → Prop) (known : UInt32 → Prop) : Prop where
  size : ∀ levels space, known space →
    Coupled excuse caches Eq (structSize spaces levels [] space) (structSize spaces levels [] space)
  members : ∀ space parts, known space → membersOf spaces space = .ok parts →
    ∀ part ∈ parts, ∀ inner, part.type.RefersTo inner → known inner

/-- What two walks remember corresponds, and so do their visitors' states. -/
def Walked.Alike (caches : SizeCache → SizeCache → Prop) (states : σ → τ → Prop)
    (s : Walked σ) (t : Walked τ) : Prop :=
  caches s.sizes t.sizes ∧ states s.state t.state

namespace Walk

theorem showing_eq (visit : EStateM ε σ Unit) (sizes : SizeCache) (state : σ) :
    showing visit ⟨sizes, state⟩ = embedded id (Walked.mk sizes) (visit state) := by
  simp only [showing]
  cases visit state <;> rfl

theorem showing_alike {left : EStateM ε σ Unit} {right : EStateM ε τ Unit}
    (coupled : Coupled excuse states Eq left right) :
    Coupled excuse (Walked.Alike caches states) Eq (showing left) (showing right) := by
  rintro ⟨sizes, state⟩ ⟨sizes', state'⟩ ⟨remembered, related⟩
  rw [showing_eq, showing_eq]
  exact (coupled state state' related).embedded fun _ _ after => ⟨remembered, after⟩

variable [LayoutFailure ε]

/-- What is settled without a visitor is settled alike. -/
theorem settle_alike {α : Type} (outcome : Except LayoutError α) :
    Coupled excuse (Walked.Alike caches states) Eq (settle outcome) (settle outcome) := by
  cases outcome with
  | ok value => exact Coupled.pure rfl
  | error error => exact Coupled.throw _

theorem bind_settle_alike {α β : Type} {outcome : Except LayoutError α} {left : α → Walk ε σ β}
    {right : α → Walk ε τ β}
    (rest : ∀ value, outcome = .ok value →
      Coupled excuse (Walked.Alike caches states) Eq (left value) (right value)) :
    Coupled excuse (Walked.Alike caches states) Eq (settle outcome >>= left)
      (settle outcome >>= right) := by
  cases outcome with
  | ok value => exact rest value rfl
  | error error => exact Coupled.throw _

theorem measuring_eq {α : Type} (action : Measure α) (sizes : SizeCache) (state : σ) :
    (measuring action : Walk ε σ α) ⟨sizes, state⟩ =
      embedded LayoutFailure.ofLayout (Walked.mk · state) (action sizes) := by
  simp only [measuring]
  cases action sizes <;> rfl

theorem measuring_alike {α β : Type} {values : α → β → Prop} {left : Measure α}
    {right : Measure β}
    (coupled : Coupled (excuse ∘ LayoutFailure.ofLayout) caches values left right) :
    Coupled excuse (Walked.Alike caches states) values (measuring left) (measuring right) := by
  rintro ⟨sizes, state⟩ ⟨sizes', state'⟩ ⟨remembered, related⟩
  rw [measuring_eq, measuring_eq]
  exact (coupled sizes sizes' remembered).embedded fun _ _ after => ⟨after, related⟩

theorem members_alike {left : Nat → TypeDescriptor → Walk ε σ Nat}
    {right : Nat → TypeDescriptor → Walk ε τ Nat} (base : Nat) {parts : VariableSpace}
    (values : ∀ part ∈ parts, ∀ offset,
      Coupled excuse (Walked.Alike caches states) Eq (left offset part.type)
        (right offset part.type)) :
    Coupled excuse (Walked.Alike caches states) Eq (members left base parts)
      (members right base parts) := by
  induction parts with
  | nil => exact Coupled.pure rfl
  | cons part rest ih =>
    apply Coupled.bind_same (settle_alike _)
    intro offset
    apply Coupled.bind_same (values part List.mem_cons_self offset)
    intro _
    exact ih fun other member => values other (List.mem_cons_of_mem _ member)

theorem instances_alike {left : Nat → Walk ε σ Unit} {right : Nat → Walk ε τ Unit}
    (structs : ∀ base, Coupled excuse (Walked.Alike caches states) Eq (left base) (right base))
    (size count base : Nat) :
    Coupled excuse (Walked.Alike caches states) Eq (instances left size count base)
      (instances right size count base) := by
  induction count generalizing base with
  | zero => exact Coupled.pure rfl
  | succ count ih =>
    apply Coupled.bind_same (structs base)
    intro _
    apply Coupled.bind_same (settle_alike _)
    intro next
    exact ih next

variable {left : Visitor ε σ} {right : Visitor ε τ} {spaces : List VariableSpace}
  {known : UInt32 → Prop}

/-- The induction is on the levels that are left; the members of a struct are one level deeper. -/
theorem value_alike (visitors : left.Alike excuse states right)
    (sizes : SizesAlike (excuse ∘ LayoutFailure.ofLayout) spaces caches known) (levels offset : Nat)
    {type : TypeDescriptor} (refers : ∀ space, type.RefersTo space → known space) :
    Coupled excuse (Walked.Alike caches states) Eq (value spaces left levels offset type)
      (value spaces right levels offset type) := by
  induction levels generalizing offset type with
  | zero =>
    unfold value
    apply Coupled.bind_same (settle_alike _)
    intro extent
    cases extent with
    | scalars width count =>
      apply Coupled.bind_same (showing_alike (visitors.visit offset width count))
      intro _
      exact settle_alike _
    | structs space count => exact Coupled.throw _
  | succ below ih =>
    unfold value
    apply bind_settle_alike
    intro extent found
    cases extent with
    | scalars width count =>
      apply Coupled.bind_same (showing_alike (visitors.visit offset width count))
      intro _
      exact settle_alike _
    | structs space count =>
      have spaceKnown : known space := refers space ⟨count, found⟩
      apply Coupled.bind_same (measuring_alike (sizes.size (below + 1) space spaceKnown))
      intro size
      by_cases empty : size = 0 ∨ count = 0
      · simp only [if_pos empty]
        exact Coupled.pure rfl
      simp only [if_neg empty]
      apply Coupled.bind_same (settle_alike _)
      intro total
      rw [visitors.enters]
      by_cases enters : right.entersStructs = true
      · simp only [if_pos enters]
        apply Coupled.bind_same (showing_alike (visitors.checkSpan offset total))
        intro _
        apply bind_settle_alike
        intro parts available
        have partsAlike : ∀ base, Coupled excuse (Walked.Alike caches states) Eq
            (members (value spaces left below) base parts)
            (members (value spaces right below) base parts) := by
          intro base
          apply members_alike
          intro part member at'
          exact ih at' (sizes.members space parts spaceKnown available part member)
        apply Coupled.bind_same (instances_alike partsAlike size count offset)
        intro _
        exact Coupled.pure rfl
      · simp only [if_neg enters]
        exact Coupled.pure rfl

theorem block_alike (visitors : left.Alike excuse states right)
    (sizes : SizesAlike (excuse ∘ LayoutFailure.ofLayout) spaces caches known)
    {vars : List Variable}
    (refers : ∀ record ∈ vars, ∀ space, record.type.RefersTo space → known space) :
    Coupled excuse (Walked.Alike caches states) Eq (block spaces left vars)
      (block spaces right vars) := by
  induction vars with
  | nil => exact Coupled.pure rfl
  | cons record rest ih =>
    apply Coupled.bind_same
      (value_alike visitors sizes _ _ (refers record List.mem_cons_self))
    intro _
    exact ih fun other member => refers other (List.mem_cons_of_mem _ member)

end Walk

/-- From one cache every size is found alike. -/
theorem sizesAlike_eq {excuse : LayoutError → Prop} (spaces : List VariableSpace) :
    SizesAlike excuse spaces Eq fun _ => True where
  size _ _ _ := Coupled.refl _
  members _ _ _ _ _ _ _ _ := trivial

end CompiledModule
