import CompiledModule.Proofs.Layout.ExactSize
import CompiledModule.Proofs.Layout.History

namespace CompiledModule

/-!
# Measuring is exact

A measurement has three limits that the size of a type does not have: sums and products must be
sizes of 64 bits, structs may be nested only so deep, and a size that is remembered must be the
right one.  None of them ever makes an answer wrong.  When a walker with any history answers a
number, the type is well formed and the number is its size, to the last unit.

Nor do the limits refuse more than they say.  A well-formed type whose structs are nested within the
limit and whose size can be computed without leaving 64 bits is measured, whatever the walker has
been asked before and however often it has failed.  A type with structs that go round in a circle is
never measured.
-/

variable {spaces : List VariableSpace} {type : TypeDescriptor} {size : Nat}

theorem membersOf_eq_ok {space : UInt32} {parts : VariableSpace} :
    membersOf spaces space = .ok parts ↔ spaces[space.toNat]? = some parts := by
  simp only [membersOf]
  cases spaces[space.toNat]? <;> simp

/-! ## Declared sizes are sizes -/

section Declared

variable {structSize : UInt32 → Except LayoutError Nat}

def declaredNumber (structSize : UInt32 → Except LayoutError Nat) (type : TypeDescriptor) : Nat :=
  (declaredTypeSize structSize type).toOption.getD 0

theorem structsSize_eq_ok {count one : Nat} :
    structsSize count one = .ok size ↔ count * one = size ∧ size < sizeLimit := by
  rw [structsSize_eq, sizeProduct_eq_ok]

theorem declaredTypeSize_scalars {width count : Nat}
    (found : type.extent = .ok (.scalars width count)) :
    declaredTypeSize structSize type = sizeProduct width count := by
  simp only [declaredTypeSize, found]
  rfl

theorem declaredTypeSize_structs {space : UInt32} {count : Nat}
    (found : type.extent = .ok (.structs space count)) :
    declaredTypeSize structSize type = structSize space >>= structsSize count := by
  simp only [declaredTypeSize, found]
  rfl

theorem declaredTypeSize_error {error : LayoutError} (found : type.extent = .error error) :
    declaredTypeSize structSize type = .error error := by
  simp only [declaredTypeSize, found]
  rfl

/-- A declared size is made of elements. -/
theorem elements_of_declared (declared : declaredTypeSize structSize type = .ok size) :
    (∃ kind, type.element? = some (.scalar kind) ∧ size = type.elementCount * kind.width) ∨
      (type.element? = some .struct ∧
        ∃ one, structSize type.members = .ok one ∧ size = type.elementCount * one) := by
  cases found : type.extent with
  | error error =>
    rw [declaredTypeSize_error found] at declared
    cases declared
  | ok extent =>
    cases extent with
    | scalars width count =>
      rw [declaredTypeSize_scalars found, sizeProduct_eq_ok] at declared
      rcases TypeDescriptor.scalars_of_extent found with ⟨kind, ends, rfl, rfl⟩
      exact Or.inl ⟨kind, ends, by rw [← declared.1, Nat.mul_comm]⟩
    | structs space count =>
      rcases TypeDescriptor.structs_of_extent found with ⟨⟨ends, rfl⟩, rfl⟩
      rw [declaredTypeSize_structs found, bind_eq_ok] at declared
      rcases declared with ⟨one, valued, total⟩
      exact Or.inr ⟨ends, one, valued, (structsSize_eq_ok.mp total).1.symm⟩

theorem members_of_declared {total sum : Nat} {parts : VariableSpace}
    (declared : declaredMembersSize structSize total parts = .ok sum) :
    (∀ part ∈ parts, declaredTypeSize structSize part.type =
        .ok (declaredNumber structSize part.type)) ∧
      sum = total + (parts.map fun part => declaredNumber structSize part.type).sum := by
  induction parts generalizing total with
  | nil =>
    cases declared
    exact ⟨fun _ member => absurd member List.not_mem_nil, rfl⟩
  | cons part rest ih =>
    simp only [declaredMembersSize, bind_eq_ok] at declared
    rcases declared with ⟨size, valued, next, added, others⟩
    have number : declaredNumber structSize part.type = size := by
      simp only [declaredNumber, valued]
      rfl
    rcases ih others with ⟨known, same⟩
    constructor
    · intro other member
      rcases List.mem_cons.mp member with rfl | member
      · rw [valued, number]
      · exact known other member
    · rw [same, List.map_cons, List.sum_cons, number, ← (sizeSum_eq_ok.mp added).1,
        Nat.add_assoc]

theorem declaredMembersSize_ok {total : Nat} {parts : VariableSpace}
    (known : ∀ part ∈ parts, declaredTypeSize structSize part.type =
      .ok (declaredNumber structSize part.type))
    (fits : total + (parts.map fun part => declaredNumber structSize part.type).sum < sizeLimit) :
    declaredMembersSize structSize total parts =
      .ok (total + (parts.map fun part => declaredNumber structSize part.type).sum) := by
  induction parts generalizing total with
  | nil => rfl
  | cons part rest ih =>
    rw [List.map_cons, List.sum_cons, ← Nat.add_assoc] at fits ⊢
    have added : sizeSum total (declaredNumber structSize part.type) =
        .ok (total + declaredNumber structSize part.type) :=
      sizeSum_eq_ok.mpr ⟨rfl, by omega⟩
    have others := ih (fun other member => known other (List.mem_cons_of_mem _ member)) fits
    simp only [declaredMembersSize, bind_eq_ok]
    exact ⟨_, known part List.mem_cons_self, _, added, others⟩

end Declared

/-- With each level the members of structs are one level deeper. -/
theorem hasSize_of_declared {levels : Nat}
    (declared : declaredSize spaces type levels = .ok size) : HasSize spaces type size := by
  induction levels generalizing type size with
  | zero =>
    rcases elements_of_declared declared with ⟨kind, ends, rfl⟩ | ⟨-, one, valued, -⟩
    · exact .scalars ends
    · cases valued
  | succ levels ih =>
    rcases elements_of_declared declared with ⟨kind, ends, rfl⟩ | ⟨ends, one, valued, rfl⟩
    · exact .scalars ends
    · simp only [declaredStructSize, bind_eq_ok] at valued
      rcases valued with ⟨parts, available, valued⟩
      rcases members_of_declared valued with ⟨known, rfl⟩
      rw [Nat.zero_add]
      exact .structs _ ends (membersOf_eq_ok.mp available)
        fun part member => ih (known part member)

/-! ## Types that are measured -/

theorem declared_scalars {levels : Nat} {kind : Scalar} (fit : SizesFit spaces type)
    (ends : type.element? = some (.scalar kind)) :
    declaredSize spaces type levels = .ok (type.elementCount * kind.width) := by
  have found := TypeDescriptor.extent_scalars (fit.counts type .refl) ends
  have fits := fit.sizes type .refl _ (.scalars ends)
  rw [declaredSize, declaredTypeSize_scalars found, Nat.mul_comm]
  exact sizeProduct_eq_ok.mpr ⟨rfl, Nat.mul_comm _ _ ▸ fits⟩

/-- Nothing stands in the way of a well-formed type whose sizes fit. -/
theorem declared_of_fits {levels : Nat} (wellFormed : WellFormed spaces type)
    (within : NestsWithin spaces type levels) (fit : SizesFit spaces type) :
    ∃ size, declaredSize spaces type levels = .ok size := by
  induction levels generalizing type with
  | zero =>
    rcases wellFormed.ends type .refl with ⟨kind, ends⟩ | ⟨ends, -⟩
    · exact ⟨_, declared_scalars fit ends⟩
    · rcases within.positive ends with ⟨below, impossible⟩
      cases impossible
  | succ levels ih =>
    rcases wellFormed.ends type .refl with ⟨kind, ends⟩ | ⟨ends, inside⟩
    · exact ⟨_, declared_scalars fit ends⟩
    have available := List.getElem?_eq_getElem inside
    have known : ∀ part ∈ spaces[type.members.toNat],
        declaredTypeSize (declaredStructSize spaces levels) part.type =
          .ok (declaredNumber (declaredStructSize spaces levels) part.type) := by
      intro part member
      have contains : Contains spaces type part.type := ⟨ends, _, available, part, member, rfl⟩
      rcases ih (wellFormed.inside contains) (within.inside contains) (fit.inside contains)
        with ⟨size, declared⟩
      have same : declaredTypeSize (declaredStructSize spaces levels) part.type = .ok size :=
        declared
      simp only [declaredNumber, same]
      rfl
    have sizes : ∀ part ∈ spaces[type.members.toNat], HasSize spaces part.type
        (declaredNumber (declaredStructSize spaces levels) part.type) :=
      fun part member => hasSize_of_declared (known part member)
    have sum := fit.sums type.members ⟨type, .refl, ends, rfl⟩ _ (.ofSpace _ available sizes)
    have total := fit.sizes type .refl _ (.structs _ ends available sizes)
    have found := TypeDescriptor.extent_structs (fit.counts type .refl) ends
    have struct : declaredStructSize spaces (levels + 1) type.members =
        declaredMembersSize (declaredStructSize spaces levels) 0 spaces[type.members.toNat] := by
      rw [declaredStructSize, membersOf_eq_ok.mpr available]
      rfl
    rw [declaredSize, declaredTypeSize_structs found, struct,
      declaredMembersSize_ok known (by rwa [Nat.zero_add]), Nat.zero_add]
    exact ⟨_, structsSize_eq_ok.mpr ⟨rfl, total⟩⟩

/-- The measurement does not give up at the limit of nesting. -/
def Persists (action : Measure α) : Prop :=
  ∀ sizes after, action sizes ≠ .error tooDeep after

namespace Persists

theorem pure (value : α) : Persists (pure value) := by
  intro sizes after ended
  cases ended

theorem settle {outcome : Except LayoutError α} (other : outcome ≠ .error tooDeep) :
    Persists (settle outcome) := by
  intro sizes after ended
  cases outcome with
  | ok value => cases ended
  | error error =>
    cases ended
    exact other rfl

theorem bind {action : Measure α} {next : α → Measure β} (first : Persists action)
    (rest : ∀ value, Persists (next value)) : Persists (action >>= next) := by
  intro sizes after ended
  cases ran : action sizes with
  | ok value middle =>
    rw [run_bind_of_ok ran] at ended
    exact rest value middle after ended
  | error error middle =>
    rw [run_bind_of_error ran] at ended
    cases ended
    exact first sizes _ ran

theorem bind_settle {outcome : Except LayoutError α} {next : α → Measure β}
    (other : outcome ≠ .error tooDeep)
    (rest : ∀ value, outcome = .ok value → Persists (next value)) :
    Persists (CompiledModule.settle outcome >>= next) := by
  cases outcome with
  | ok value => exact rest value rfl
  | error error =>
    intro sizes after ended
    cases ended
    exact other rfl

end Persists

theorem sizeProduct_ne_tooDeep (left right : Nat) : sizeProduct left right ≠ .error tooDeep := by
  rw [Ne, sizeProduct_eq_error]
  exact fun both => LayoutError.noConfusion both.2

theorem sizeSum_ne_tooDeep (left right : Nat) : sizeSum left right ≠ .error tooDeep := by
  rw [Ne, sizeSum_eq_error]
  exact fun both => LayoutError.noConfusion both.2

theorem extentFrom_ne_tooDeep (members : UInt32) (index count : Nat) (links : List Link) :
    TypeDescriptor.extentFrom members index count links ≠ .error tooDeep := by
  induction links generalizing index count with
  | nil => simp [TypeDescriptor.extentFrom]
  | cons link rest ih =>
    rw [TypeDescriptor.extentFrom]
    split
    · simp
    · have product := sizeProduct_ne_tooDeep count link.count.toNat
      cases total : sizeProduct count link.count.toNat with
      | error error =>
        intro same
        cases same
        exact product total
      | ok total' => exact ih (index + 1) total'
    · simp
    · simp

section Persists

variable {structSize : UInt32 → Measure Nat}

theorem typeSize_persists
    (structs : type.element? = some .struct → Persists (structSize type.members)) :
    Persists (typeSize structSize type) := by
  apply Persists.bind_settle (extentFrom_ne_tooDeep _ _ _ _)
  intro extent found
  cases extent with
  | scalars width count => exact Persists.settle (sizeProduct_ne_tooDeep width count)
  | structs space count =>
    rcases TypeDescriptor.structs_of_extent found with ⟨⟨ends, rfl⟩, -⟩
    apply (structs ends).bind
    intro one
    split
    · exact Persists.pure 0
    · exact Persists.settle (sizeProduct_ne_tooDeep one count)

theorem membersSize_persists {parts : VariableSpace}
    (members : ∀ part ∈ parts, Persists (typeSize structSize part.type)) (total : Nat) :
    Persists (membersSize structSize total parts) := by
  induction parts generalizing total with
  | nil => exact Persists.pure total
  | cons part rest ih =>
    apply (members part List.mem_cons_self).bind
    intro size
    apply (Persists.settle (sizeSum_ne_tooDeep total size)).bind
    exact ih fun other member => members other (List.mem_cons_of_mem _ member)

end Persists

/-- The spaces that are being measured do not come up again, and the levels suffice. -/
theorem measure_persists {levels : Nat} {opened : List UInt32}
    (wellFormed : WellFormed spaces type) (within : NestsWithin spaces type levels)
    (closed : ∀ space ∈ opened, ¬ ReachesSpace spaces type space) :
    Persists (typeSize (structSize spaces levels opened) type) := by
  induction levels generalizing type opened with
  | zero =>
    apply typeSize_persists
    intro ends
    rcases within.positive ends with ⟨below, impossible⟩
    cases impossible
  | succ levels ih =>
    apply typeSize_persists
    intro ends sizes after
    cases available : membersOf spaces type.members with
    | error error =>
      rw [structSize_unavailable available]
      intro gaveUp
      cases gaveUp
      simp only [membersOf] at available
      split at available <;> cases available
    | ok parts =>
      cases known : sizes.lookup type.members with
      | some size =>
        rw [structSize_known available known]
        exact fun impossible => by cases impossible
      | none =>
        have fresh : type.members ∉ opened := fun member =>
          closed _ member ⟨type, .refl, ends, rfl⟩
        have members : Persists
            (membersSize (structSize spaces levels (type.members :: opened)) 0 parts) := by
          apply membersSize_persists
          intro part member
          have contains : Contains spaces type part.type :=
            ⟨ends, parts, membersOf_eq_ok.mp available, part, member, rfl⟩
          apply ih (wellFormed.inside contains) (within.inside contains)
          intro space inList
          rcases List.mem_cons.mp inList with rfl | inList
          · exact wellFormed.not_reaches contains
          · rintro ⟨inner, reaches, innerEnds⟩
            exact closed space inList ⟨inner, .head contains reaches, innerEnds⟩
        rw [structSize_unknown levels available known fresh]
        have persists := members sizes
        revert persists
        cases membersSize (structSize spaces levels (type.members :: opened)) 0 parts sizes with
        | ok size after' =>
          intro _ impossible
          cases impossible
        | error error after' =>
          intro persists same
          cases same
          exact persists _ rfl

/-! ## Walkers with a history -/

theorem measured_persists {sizes : SizeCache} (wellFormed : WellFormed spaces type)
    (within : NestsWithin spaces type nestingLimit) :
    measured spaces sizes type ≠ .error tooDeep := by
  have unopened : ∀ opened ∈ ([] : List UInt32), ¬ReachesSpace spaces type opened :=
    fun _ impossible => absurd impossible List.not_mem_nil
  have persists := measure_persists wellFormed within unopened sizes
  simp only [measured, measure]
  revert persists
  cases typeSize (structSize spaces nestingLimit []) type sizes with
  | ok size after =>
    intro _ impossible
    cases impossible
  | error error after =>
    intro persists same
    cases same
    exact persists _ rfl

theorem hasSize_of_measured {sizes : SizeCache} (sound : sizes.Sound spaces)
    (answered : measured spaces sizes type = .ok size) : HasSize spaces type size := by
  rcases measured_settles sound type with gaveUp | ⟨levels, settled⟩
  · rw [answered] at gaveUp
    cases gaveUp
  · have declared := settled levels (Nat.le_refl levels)
    rw [answered] at declared
    exact hasSize_of_declared declared

theorem measured_of_fits {sizes : SizeCache} (sound : sizes.Sound spaces)
    (wellFormed : WellFormed spaces type) (within : NestsWithin spaces type nestingLimit)
    (fit : SizesFit spaces type) :
    ∃ size, HasSize spaces type size ∧ measured spaces sizes type = .ok size := by
  rcases measured_settles sound type with gaveUp | ⟨levels, settled⟩
  · exact absurd gaveUp (measured_persists wellFormed within)
  · have enough := within.mono (Nat.le_max_right levels nestingLimit)
    rcases declared_of_fits wellFormed enough fit with ⟨size, declared⟩
    have answered := settled _ (Nat.le_max_left levels nestingLimit)
    exact ⟨size, hasSize_of_declared declared, answered.symm.trans declared⟩

/-- After any calls, also after calls that have failed, a walker measures exactly.  A number that it
answers is the size of the type, which is well formed then.  A well-formed type that keeps inside the
limits has a size, and it is answered.  And no type is measured in which structs go round in a
circle. -/
theorem usedWalker_measures_exactly (spaces : List VariableSpace) (calls : List WalkerCall)
    (type : TypeDescriptor) :
    (∀ answer, measured spaces (.after spaces calls) type = .ok answer →
      WellFormed spaces type ∧ ∀ size, HasSize spaces type size ↔ size = answer) ∧
    (WellFormed spaces type → NestsWithin spaces type nestingLimit → SizesFit spaces type →
      ∃ size, HasSize spaces type size ∧
        measured spaces (.after spaces calls) type = .ok size) ∧
    (∀ space, ReachesSpace spaces type space → Circular spaces space →
      ∃ error, measured spaces (.after spaces calls) type = .error error) := by
  have sound := SizeCache.sound_after spaces calls
  refine ⟨?_, measured_of_fits sound, ?_⟩
  · intro answer answered
    have has := hasSize_of_measured sound answered
    refine ⟨has.wellFormed, fun size => ⟨fun again => again.unique has, ?_⟩⟩
    rintro rfl
    exact has
  · intro space reaches circular
    cases answered : measured spaces (.after spaces calls) type with
    | error error => exact ⟨error, rfl⟩
    | ok size => exact absurd circular ((hasSize_of_measured sound answered).not_circular reaches)

end CompiledModule
