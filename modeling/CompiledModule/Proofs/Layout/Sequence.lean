import CompiledModule.Proofs.Layout.ExactMeasure
import CompiledModule.Proofs.Layout.Showing

namespace CompiledModule

/-!
# The sequence of a walk

What a walk shows is the expansion of its type, in order.  Before a struct is entered its size is
measured, and that makes the sizes of all structs inside it known, so a walk is reduced to the case
in which it finds every size without measuring.  There the induction is on the levels that are left.
With every level the walk comes to the members of a struct, and the plan of a struct is made of the
plans of its members.

The walk itself has little left to refuse.  It stops at a struct that is nested too deep, and it
stops when an offset is no size any more, which cannot happen unless something that is shown ends
close to the largest size.  What cannot be measured is refused before anything is shown, except for
a single run of scalars.
-/

variable {ε σ : Type} [LayoutFailure ε] {spaces : List VariableSpace} {sizes : SizeCache}
  {type : TypeDescriptor}

/-! ## The parts of a walk -/

namespace Walk

/-- Walks `count` structs of `size` bytes each, as a visitor does that enters structs. -/
def structs (spaces : List VariableSpace) (visitor : Visitor ε σ) (levels offset : Nat)
    (space : UInt32) (count size : Nat) : Walk ε σ Nat :=
  if size = 0 ∨ count = 0 then pure 0
  else do
    let total ← settle (sizeProduct size count)
    showing (visitor.checkSpan offset total)
    let parts ← settle (membersOf spaces space)
    instances (fun base => members (value spaces visitor levels) base parts) size count offset
    return total

variable {visitor : Visitor ε σ} {levels offset : Nat}

theorem value_error {error : LayoutError} (found : type.extent = .error error) :
    value spaces visitor levels offset type = throw (LayoutFailure.ofLayout error) := by
  cases levels <;> unfold value <;> rw [found] <;> rfl

theorem value_scalars {width count : Nat} (found : type.extent = .ok (.scalars width count)) :
    value spaces visitor levels offset type =
      showing (visitor.visit offset width count) >>= fun _ => settle (sizeProduct width count) := by
  cases levels <;> unfold value <;> rw [found] <;> rfl

theorem value_unlevelled {space : UInt32} {count : Nat}
    (found : type.extent = .ok (.structs space count)) :
    value spaces visitor 0 offset type = throw (LayoutFailure.ofLayout tooDeep) := by
  unfold value
  rw [found]
  rfl

theorem value_structs {space : UInt32} {count : Nat} (enters : visitor.entersStructs = true)
    (found : type.extent = .ok (.structs space count)) :
    value spaces visitor (levels + 1) offset type =
      measuring (structSize spaces (levels + 1) [] space) >>=
        structs spaces visitor levels offset space count := by
  conv => lhs; unfold value
  rw [found]
  change measuring _ >>= _ = _
  congr 1
  funext size
  unfold structs
  simp only [enters]
  rfl

theorem structs_error {space : UInt32} {count size : Nat} {error : LayoutError}
    (large : structsSize count size = .error error) :
    structs spaces visitor levels offset space count size =
      throw (LayoutFailure.ofLayout error) := by
  unfold structsSize at large
  unfold structs
  split at large
  · cases large
  · rename_i filled
    rw [if_neg filled, large]
    rfl

end Walk

/-! ## Known structs -/

/-- A struct has a declared size only if its members have, with one level less. -/
theorem members_of_declaredStruct {levels : Nat} {space : UInt32} {one : Nat}
    (declared : declaredStructSize spaces levels space = .ok one) :
    ∃ below parts, membersOf spaces space = .ok parts ∧
      ∀ part ∈ parts, ∃ size, declaredSize spaces part.type below = .ok size := by
  cases levels with
  | zero => cases declared
  | succ below =>
    rcases bind_eq_ok.mp declared with ⟨parts, available, declared⟩
    exact ⟨below, parts, available, fun part member =>
      ⟨_, (members_of_declared declared).1 part member⟩⟩

/-- A declared size of a struct is the size of the struct. -/
theorem hasSize_of_declaredStruct {levels : Nat} {space : UInt32} {one : Nat}
    (declared : declaredStructSize spaces levels space = .ok one) :
    HasSize spaces (.ofSpace space) one := by
  cases levels with
  | zero => cases declared
  | succ below =>
    rcases bind_eq_ok.mp declared with ⟨parts, available, declared⟩
    rcases members_of_declared declared with ⟨known, rfl⟩
    rw [Nat.zero_add]
    exact .ofSpace _ (membersOf_eq_ok.mp available)
      fun part member => hasSize_of_declared (known part member)

/-- Why a check may stop a walk with so many levels whose type expands to these events: a struct is
nested too deep, or the walk has come close to the largest size. -/
inductive Stops (spaces : List VariableSpace) (type : TypeDescriptor) (levels : Nat)
    (events : List WalkEvent) : LayoutError → Prop
  | nested {depth : Nat} (meets : Meets spaces type depth) (deep : levels ≤ depth) :
    Stops spaces type levels events tooDeep
  | large {event : WalkEvent} (shown : event ∈ events)
    (past : sizeLimit ≤ event.finish + 0x100000000) : Stops spaces type levels events .overflow

theorem Stops.inside {part : TypeDescriptor} {levels size : Nat} {inner events : List WalkEvent}
    {error : LayoutError} (stops : Stops spaces part levels inner error)
    (has : HasSize spaces type size) (filled : 0 < size) (contains : Contains spaces type part)
    (among : ∀ event ∈ inner, event ∈ events) : Stops spaces type (levels + 1) events error := by
  cases stops with
  | nested meets deep => exact .nested (.inside has filled contains meets) (Nat.succ_le_succ deep)
  | large shown past => exact .large (among _ shown) past

theorem Meets.ends {depth : Nat} (meets : Meets spaces type depth) :
    type.element? = some .struct := by
  cases meets with
  | here ends => exact ends
  | inside _ _ contains _ => exact contains.1

section Showing

variable {visitor : Visitor ε σ} {stops : LayoutError → Prop} {offset size : Nat}
  {events : List WalkEvent}

/-- A run of scalars is shown, and its size is the answer. -/
theorem scalars_showing {levels deep width count : Nat}
    (found : type.extent = .ok (.scalars width count))
    (declared : declaredSize spaces type deep = .ok size)
    (expands : Expands spaces offset type events) :
    Showing visitor sizes (Walk.value spaces visitor levels offset type) events stops
      fun answer => answer = size ∧ ∀ depth, Meets spaces type depth → depth < levels := by
  rw [declaredSize, declaredTypeSize_scalars found] at declared
  rw [Walk.value_scalars found, declared]
  rcases TypeDescriptor.scalars_of_extent found with ⟨kind, ends, rfl, rfl⟩
  rw [expands.unique (.scalars ends)]
  have shown : Showing visitor sizes
      (Walk.showing (visitor.visit offset kind.width type.elementCount))
      [.run offset kind.width type.elementCount] stops fun _ => True :=
    .see (.run offset kind.width type.elementCount)
  apply shown.bind_quiet
  intro _ _
  apply Showing.pure
  refine ⟨rfl, ?_⟩
  intro depth meets
  have same := ends.symm.trans meets.ends
  cases same

/-- What a cache knows of a struct that has a declared size. -/
theorem knows_declared {levels : Nat} {space : UInt32} {one : Nat} (sound : sizes.Sound spaces)
    (known : sizes.Knows space) (declared : declaredStructSize spaces levels space = .ok one) :
    sizes.lookup space = some one := by
  rcases known with ⟨size, found⟩
  rcases sound.size space size found with ⟨least, settled⟩
  have settled := settled least (Nat.le_refl least)
  rw [found, (hasSize_of_declaredStruct settled).unique (hasSize_of_declaredStruct declared)]

section Structs

variable {levels one : Nat} {parts : VariableSpace}
  {inner : Nat → TypeDescriptor → List WalkEvent}

/-- What a run of structs plans to show, which begins with its span. -/
abbrev structEvents (inner : Nat → TypeDescriptor → List WalkEvent) (parts : VariableSpace)
    (one count offset : Nat) : List WalkEvent :=
  .span offset (count * one) :: instanceEvents inner parts one count offset

/-- The members of structs that have bytes are shown, unless the span of the structs ends near the
largest size. -/
theorem instances_showing (has : HasSize spaces type (type.elementCount * one))
    (filled : 0 < type.elementCount * one)
    (contains : ∀ part ∈ parts, Contains spaces type part.type)
    (members : ∀ number < type.elementCount, ∀ part ∈ parts,
      Showing visitor sizes
        (Walk.value spaces visitor levels (offset + number * one + part.offset.toNat) part.type)
        (inner (offset + number * one + part.offset.toNat) part.type)
        (Stops spaces part.type levels
          (inner (offset + number * one + part.offset.toNat) part.type))
        fun _ => ∀ depth, Meets spaces part.type depth → depth < levels) :
    Showing visitor sizes
      (Walk.instances (fun base => Walk.members (Walk.value spaces visitor levels) base parts) one
        type.elementCount offset)
      (instanceEvents inner parts one type.elementCount offset)
      (Stops spaces type (levels + 1) (structEvents inner parts one type.elementCount offset))
      fun _ => 0 < type.elementCount →
        ∀ part ∈ parts, ∀ depth, Meets spaces part.type depth → depth < levels := by
  apply Showing.instances
  · intro past
    exact .large List.mem_cons_self (Nat.le_trans past (Nat.le_add_right _ _))
  intro number below
  -- Every struct begins inside the span.
  have inside : number * one ≤ type.elementCount * one :=
    Nat.mul_le_mul_right one (Nat.le_of_lt below)
  apply Showing.members
  · intro part _ past
    have small := part.offset.toNat_lt
    refine .large List.mem_cons_self ?_
    change sizeLimit ≤ offset + type.elementCount * one + 0x100000000
    omega
  intro part member
  apply (members number below part member).weaken
  · intro error stops
    apply stops.inside has filled (contains part member)
    intro event among
    apply List.mem_cons_of_mem
    exact List.mem_flatMap.mpr ⟨number, List.mem_range.mpr below,
      List.mem_flatMap.mpr ⟨part, member, among⟩⟩
  · exact fun _ holds => holds

/-- A run of structs is shown when its members are. -/
theorem structs_showing (has : HasSize spaces type size)
    (single : HasSize spaces (.ofSpace type.members) one) (ends : type.element? = some .struct)
    (available : spaces[type.members.toNat]? = some parts)
    (total : structsSize type.elementCount one = .ok size)
    (expands : Expands spaces offset type events)
    (members : ∀ part ∈ parts, ∀ place inner, Expands spaces place part.type inner →
      Showing visitor sizes (Walk.value spaces visitor levels place part.type) inner
        (Stops spaces part.type levels inner) fun _ =>
          ∀ depth, Meets spaces part.type depth → depth < levels) :
    Showing visitor sizes
      (Walk.structs spaces visitor levels offset type.members type.elementCount one) events
      (Stops spaces type (levels + 1) events)
      fun answer => answer = size ∧ ∀ depth, Meets spaces type depth → depth < levels + 1 := by
  rcases structsSize_eq_ok.mp total with ⟨rfl, fits⟩
  unfold Walk.structs
  cases expands with
  | scalars ends' =>
    rw [ends] at ends'
    cases ends'
  | nothing _ empty =>
    have nothing : one = 0 ∨ type.elementCount = 0 :=
      (Nat.mul_eq_zero.mp (has.unique empty)).symm
    rw [if_pos nothing]
    apply Showing.pure
    refine ⟨empty.unique has, ?_⟩
    intro depth meets
    cases meets with
    | here _ => exact Nat.zero_lt_succ levels
    | inside has' filled _ _ => exact absurd (has'.unique empty) (Nat.ne_of_gt filled)
  | structs inner _ available' single' filled expanded =>
    cases single.unique single'
    rw [available] at available'
    cases available'
    have contains : ∀ part ∈ parts, Contains spaces type part.type :=
      fun part member => ⟨ends, parts, available, part, member, rfl⟩
    have something : ¬ (one = 0 ∨ type.elementCount = 0) := by
      rintro (nothing | nothing) <;> rw [nothing] at filled <;> simp at filled
    have product : sizeProduct one type.elementCount = .ok (type.elementCount * one) :=
      sizeProduct_eq_ok.mpr ⟨Nat.mul_comm _ _, fits⟩
    rw [if_neg something, product, membersOf_eq_ok.mpr available]
    have span : Showing visitor sizes
        (Walk.showing (visitor.checkSpan offset (type.elementCount * one)))
        [.span offset (type.elementCount * one)]
        (Stops spaces type (levels + 1) (structEvents inner parts one type.elementCount offset))
        fun _ => True := .see (.span offset (type.elementCount * one))
    apply span.bind
    intro _ _
    have shown := instances_showing has filled contains fun number below part member =>
      members part member _ _ (expanded number below part member)
    apply shown.bind_quiet
    intro _ deeper
    apply Showing.pure
    refine ⟨rfl, ?_⟩
    intro depth meets
    cases meets with
    | here _ => exact Nat.zero_lt_succ levels
    | inside _ _ contains' deeper' =>
      rcases contains' with ⟨_, parts', available', part, member, rfl⟩
      rw [available] at available'
      cases available'
      have positive : 0 < type.elementCount := Nat.pos_of_mul_pos_right filled
      exact Nat.succ_lt_succ (deeper positive part member _ deeper')

end Structs

/-- A walk of a type whose structs are all known shows the expansion of the type.  The induction is
on the levels; the members of a struct are one level deeper. -/
theorem value_showing (enters : visitor.entersStructs = true) (sound : sizes.Sound spaces)
    {levels deep : Nat} (known : ∀ space, type.RefersTo space → sizes.Knows space)
    (declared : declaredSize spaces type deep = .ok size)
    (expands : Expands spaces offset type events) :
    Showing visitor sizes (Walk.value spaces visitor levels offset type) events
      (Stops spaces type levels events)
      fun answer => answer = size ∧ ∀ depth, Meets spaces type depth → depth < levels := by
  induction levels generalizing type deep offset size events with
  | zero =>
    cases found : type.extent with
    | error error =>
      rw [declaredSize, declaredTypeSize_error found] at declared
      cases declared
    | ok extent =>
      cases extent with
      | scalars width count => exact scalars_showing found declared expands
      | structs space count =>
        have ends := (TypeDescriptor.structs_of_extent found).1.1
        rw [Walk.value_unlevelled found]
        exact .throw (.nested (.here ends) (Nat.le_refl 0)) events
  | succ levels ih =>
    cases found : type.extent with
    | error error =>
      rw [declaredSize, declaredTypeSize_error found] at declared
      cases declared
    | ok extent =>
      cases extent with
      | scalars width count => exact scalars_showing found declared expands
      | structs space count =>
        have has := hasSize_of_declared declared
        have knows := known space ⟨count, found⟩
        rw [declaredSize, declaredTypeSize_structs found] at declared
        rcases bind_eq_ok.mp declared with ⟨one, valued, total⟩
        rcases TypeDescriptor.structs_of_extent found with ⟨⟨ends, rfl⟩, rfl⟩
        rcases members_of_declaredStruct valued with ⟨deep, parts, available, partsDeclared⟩
        rw [Walk.value_structs enters found]
        apply Showing.quiet_bind
          (Showing.measuring (structSize_known available (knows_declared sound knows valued)))
        rintro _ rfl
        apply structs_showing has (hasSize_of_declaredStruct valued) ends
          (membersOf_eq_ok.mp available) total expands
        intro part member place inner expands
        rcases partsDeclared part member with ⟨size, declared⟩
        have partKnown := sound.members type.members parts knows available part member
        exact (ih partKnown declared expands).weaken (fun _ cause => cause) fun _ both => both.2

end Showing

/-! ## Walks from any sizes -/

section TypeSize

variable {structSize : UInt32 → Measure Nat}

theorem typeSize_error {error : LayoutError} (found : type.extent = .error error) :
    typeSize structSize type = throw error := by
  unfold typeSize
  rw [found]
  rfl

theorem typeSize_scalars {width count : Nat} (found : type.extent = .ok (.scalars width count)) :
    typeSize structSize type = settle (sizeProduct width count) := by
  unfold typeSize
  rw [found]
  rfl

theorem typeSize_structs {space : UInt32} {count : Nat}
    (found : type.extent = .ok (.structs space count)) :
    typeSize structSize type = structSize space >>= fun one => settle (structsSize count one) := by
  unfold typeSize
  rw [found]
  change structSize space >>= _ = _
  congr 1
  funext one
  unfold structsSize
  split <;> rfl

end TypeSize

section Start

variable {after : SizeCache} {levels size : Nat} {error : LayoutError}

/-- Once a type has been measured, a walk goes on as if its size had been known before. -/
theorem value_from_measured (visitor : Visitor ε σ) {offset : Nat} (sound : sizes.Sound spaces)
    (answered : typeSize (structSize spaces levels []) type sizes = .ok size after)
    (state : σ) :
    Walk.value spaces visitor levels offset type ⟨sizes, state⟩ =
      Walk.value spaces visitor levels offset type ⟨after, state⟩ := by
  cases found : type.extent with
  | error error =>
    rw [typeSize_error found] at answered
    cases answered
  | ok extent =>
    cases extent with
    | scalars width count =>
      rw [typeSize_scalars found] at answered
      rw [(settle_eq_ok.mp answered).2]
    | structs space count =>
      rw [typeSize_structs found] at answered
      rcases run_bind_eq_ok.mp answered with ⟨one, middle, ran, total⟩
      rcases settle_eq_ok.mp total with ⟨_, rfl⟩
      cases levels with
      | zero => cases ran
      | succ levels =>
        exact value_structs_ok visitor levels offset found ran (structSize_again sound ran).2 state

/-- A walk of a type that is measured shows the expansion of the type. -/
theorem value_shows (visitor : Visitor ε σ) (enters : visitor.entersStructs = true)
    (sound : sizes.Sound spaces) (offset : Nat)
    (answered : typeSize (structSize spaces levels []) type sizes = .ok size after)
    (state : σ) :
    ∃ events, Expands spaces offset type events ∧
      Shows visitor after state events (Stops spaces type levels events)
        (fun answer => answer = size ∧ ∀ depth, Meets spaces type depth → depth < levels)
        (Walk.value spaces visitor levels offset type ⟨sizes, state⟩) := by
  rcases typeSize_finds (structSize_finds levels []) type sizes sound with
    ⟨outcome, found, ran, finds⟩
  rw [ran] at answered
  rcases settle_eq_ok.mp answered with ⟨rfl, rfl⟩
  rcases finds.settles.resolve_left (by simp) with ⟨deep, settled⟩
  have declared : declaredSize spaces type deep = .ok size := settled deep (Nat.le_refl deep)
  rcases (hasSize_of_declared declared).exists_expands offset with ⟨events, expands⟩
  refine ⟨events, expands, ?_⟩
  rw [value_from_measured visitor sound ran state]
  exact value_showing enters finds.sound (finds.knows size rfl) declared expands state

/-- Structs that are not measured are not shown, neither they nor their span. -/
theorem structs_unmeasured (visitor : Visitor ε σ) (enters : visitor.entersStructs = true)
    (sound : sizes.Sound spaces) (offset : Nat) {space : UInt32} {count : Nat}
    (found : type.extent = .ok (.structs space count))
    (failed : typeSize (structSize spaces levels []) type sizes = .error error after) (state : σ) :
    Shows visitor after state [] (Eq error) (fun _ => False)
      (Walk.value spaces visitor levels offset type ⟨sizes, state⟩) := by
  rw [typeSize_structs found] at failed
  cases levels with
  | zero =>
    rcases run_bind_eq_error.mp failed with ran | ⟨_, _, impossible, _⟩
    · cases ran
      rw [Walk.value_unlevelled found]
      exact Showing.throw rfl [] state
    · cases impossible
  | succ levels =>
    rcases run_bind_eq_error.mp failed with ran | ⟨one, middle, ran, ended⟩
    · rw [value_structs_error visitor levels offset found ran state]
      exact .stopped List.nil_prefix rfl rfl
    · -- One struct has a size, but all of them together have none.
      rcases settle_eq_error.mp ended with ⟨large, rfl⟩
      have again := (structSize_again sound ran).2
      rw [value_structs_ok visitor levels offset found ran again, Walk.value_structs enters found]
      have measured : Showing visitor after
          (Walk.measuring (structSize spaces (levels + 1) [] space)) [] (Eq error)
          fun found => found = one := Showing.measuring again
      apply measured.quiet_bind
      rintro _ rfl
      rw [Walk.structs_error large]
      exact .throw rfl []

/-- A walk of a type that is not measured shows nothing, or all of the only run that there is. -/
theorem value_unmeasured (visitor : Visitor ε σ) (enters : visitor.entersStructs = true)
    (sound : sizes.Sound spaces) (offset : Nat)
    (failed : typeSize (structSize spaces levels []) type sizes = .error error after) (state : σ) :
    ∃ events, (events = [] ∨ Expands spaces offset type events) ∧
      Shows visitor after state events (Eq error) (fun _ => False)
        (Walk.value spaces visitor levels offset type ⟨sizes, state⟩) := by
  cases found : type.extent with
  | error other =>
    rw [typeSize_error found] at failed
    cases failed
    rw [Walk.value_error found]
    exact ⟨[], Or.inl rfl, Showing.throw rfl [] state⟩
  | ok extent =>
    cases extent with
    | scalars width count =>
      rw [typeSize_scalars found] at failed
      rcases settle_eq_error.mp failed with ⟨large, rfl⟩
      rcases TypeDescriptor.scalars_of_extent found with ⟨kind, ends, rfl, rfl⟩
      refine ⟨_, Or.inr (.scalars ends), ?_⟩
      rw [Walk.value_scalars found, large]
      have run : Showing visitor after
          (Walk.showing (visitor.visit offset kind.width type.elementCount))
          [.run offset kind.width type.elementCount] (Eq error) fun _ => True :=
        .see (.run offset kind.width type.elementCount)
      exact run.bind_quiet (fun _ _ => .throw rfl []) state
    | structs space count =>
      exact ⟨[], Or.inl rfl, structs_unmeasured visitor enters sound offset found failed state⟩

end Start

end CompiledModule
