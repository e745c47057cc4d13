import CompiledModule.Proofs.Layout.DeclaredSize

namespace CompiledModule

/-!
# What a cache of sizes may hold

Measuring remembers the size of every space that it has measured to the end.  Whatever has been
asked of it before, also in vain, a cache that has grown in this way is sound: each size in it is
the declared one, and with a space it holds the spaces of all its members.

From a sound cache a measurement finds the declared size or the declared error, or it gives up at
the limit of nesting.  It never finds anything else, so a remembered size can only bring it
further.  Two measurements from caches of which one holds all that the other holds keep step as
long as the poorer one does not give up.
-/

namespace SizeCache

def Knows (sizes : SizeCache) (space : UInt32) : Prop :=
  ∃ size, sizes.lookup space = some size

def Within (sizes others : SizeCache) : Prop :=
  ∀ space, sizes.Knows space → others.Knows space

/-- Remembered sizes are right, and those they were found from are remembered. -/
structure Sound (spaces : List VariableSpace) (sizes : SizeCache) : Prop where
  size : ∀ space size, sizes.lookup space = some size →
    Settles (fun levels => declaredStructSize spaces levels space) (.ok size)
  members : ∀ space parts, sizes.Knows space → membersOf spaces space = .ok parts →
    ∀ part ∈ parts, ∀ inner, part.type.RefersTo inner → sizes.Knows inner

theorem Within.refl (sizes : SizeCache) : sizes.Within sizes :=
  fun _ known => known

theorem Within.trans {first second third : SizeCache} (step : first.Within second)
    (next : second.Within third) : first.Within third :=
  fun space known => next space (step space known)

theorem sound_nil (spaces : List VariableSpace) : Sound spaces [] where
  size _ _ found := by cases found
  members := by
    rintro _ _ ⟨_, found⟩
    cases found

theorem lookup_cons (sizes : SizeCache) (space other : UInt32) (size : Nat) :
    ((space, size) :: sizes).lookup other =
      if other = space then some size else sizes.lookup other := by
  rw [List.lookup_cons]
  by_cases same : other = space
  · simp [same]
  · rw [beq_false_of_ne same, if_neg same]

theorem knows_cons (sizes : SizeCache) (space other : UInt32) (size : Nat) :
    SizeCache.Knows ((space, size) :: sizes) other ↔ other = space ∨ sizes.Knows other := by
  unfold Knows
  rw [lookup_cons]
  by_cases same : other = space
  · simp [same]
  · simp [same]

theorem within_cons (sizes : SizeCache) (space : UInt32) (size : Nat) :
    sizes.Within ((space, size) :: sizes) :=
  fun other known => (knows_cons sizes space other size).mpr (Or.inr known)

theorem Within.cons {sizes others : SizeCache} (within : sizes.Within others) (space : UInt32)
    (size size' : Nat) : Within ((space, size) :: sizes) ((space, size') :: others) := by
  intro other knows
  rcases (knows_cons sizes space other size).mp knows with same | knows
  · exact (knows_cons others space other size').mpr (Or.inl same)
  · exact within_cons others space size' other (within other knows)

/-- What the richer cache does not know, the poorer one does not know either. -/
theorem Within.lookup_eq_none {sizes others : SizeCache} {space : UInt32}
    (within : sizes.Within others) (unknown : others.lookup space = none) :
    sizes.lookup space = none := by
  cases known : sizes.lookup space with
  | none => rfl
  | some size =>
    rcases within space ⟨size, known⟩ with ⟨size', known'⟩
    rw [unknown] at known'
    cases known'

/-- A size may be added when it is the declared one and its members' sizes are known. -/
theorem Sound.cons {spaces : List VariableSpace} {sizes : SizeCache} (sound : sizes.Sound spaces)
    {space : UInt32} {size : Nat} {parts : VariableSpace}
    (settles : Settles (fun levels => declaredStructSize spaces levels space) (.ok size))
    (available : membersOf spaces space = .ok parts)
    (known : ∀ part ∈ parts, ∀ inner, part.type.RefersTo inner → sizes.Knows inner) :
    Sound spaces ((space, size) :: sizes) := by
  constructor
  · intro other size' found
    rw [lookup_cons] at found
    by_cases same : other = space
    · rw [if_pos same, Option.some.injEq] at found
      rw [same, ← found]
      exact settles
    · rw [if_neg same] at found
      exact sound.size other size' found
  · intro other parts' knows available' part member inner refers
    apply within_cons
    rcases (knows_cons sizes space other size).mp knows with rfl | knows
    · rw [available] at available'
      cases available'
      exact known part member inner refers
    · exact sound.members other parts' knows available' part member inner refers

end SizeCache

/-! ## What a measurement finds -/

/-- A measurement from the cache `sizes` has ended with `outcome` and left `after`.  The outcome is
the declared one or the limit of nesting, and certain spaces are known after a success. -/
structure Found (spaces : List VariableSpace) (declared : Nat → Except LayoutError α)
    (learnt : UInt32 → Prop) (sizes : SizeCache) (outcome : Except LayoutError α)
    (after : SizeCache) : Prop where
  sound : after.Sound spaces
  grown : sizes.Within after
  settles : outcome = .error tooDeep ∨ Settles declared outcome
  knows : ∀ value, outcome = .ok value → ∀ space, learnt space → after.Knows space

/-- From a sound cache the measurement finds what is declared. -/
def Finds (spaces : List VariableSpace) (action : Measure α)
    (declared : Nat → Except LayoutError α) (learnt : UInt32 → Prop) : Prop :=
  ∀ sizes : SizeCache, sizes.Sound spaces → ∃ outcome after,
    action sizes = settle outcome after ∧ Found spaces declared learnt sizes outcome after

variable {spaces : List VariableSpace}

namespace Finds

theorem settle (outcome : Except LayoutError α) :
    Finds spaces (settle outcome) (fun _ => outcome) fun _ => False :=
  fun sizes sound => ⟨outcome, sizes, rfl, sound, .refl sizes, Or.inr (.const outcome),
    fun _ _ _ impossible => impossible.elim⟩

theorem weaken {action : Measure α} {declared : Nat → Except LayoutError α}
    {learnt fewer : UInt32 → Prop} (finds : Finds spaces action declared learnt)
    (implies : ∀ space, fewer space → learnt space) : Finds spaces action declared fewer := by
  intro sizes sound
  rcases finds sizes sound with ⟨outcome, after, ran, found⟩
  exact ⟨outcome, after, ran, found.sound, found.grown, found.settles,
    fun value succeeded space few => found.knows value succeeded space (implies space few)⟩

theorem bind {action : Measure α} {next : α → Measure β}
    {declared : Nat → Except LayoutError α} {rest : α → Nat → Except LayoutError β}
    {learnt more : UInt32 → Prop} (first : Finds spaces action declared learnt)
    (then' : ∀ value, Finds spaces (next value) (rest value) more) :
    Finds spaces (action >>= next) (fun levels => declared levels >>= fun a => rest a levels)
      fun space => learnt space ∨ more space := by
  intro sizes sound
  rcases first sizes sound with ⟨outcome, after, ran, found⟩
  change ∃ outcome after, EStateM.bind action next sizes = _ ∧ _
  unfold EStateM.bind
  rw [ran]
  cases outcome with
  | error error =>
    refine ⟨.error error, after, rfl, found.sound, found.grown, ?_, fun _ impossible => by
      cases impossible⟩
    rcases found.settles with gaveUp | settles
    · cases gaveUp
      exact Or.inl rfl
    · exact Or.inr settles.bind_error
  | ok value =>
    have settles : Settles declared (.ok value) := found.settles.resolve_left (by simp)
    rcases then' value after found.sound with ⟨outcome, final, ran', found'⟩
    refine ⟨outcome, final, ran', found'.sound, found.grown.trans found'.grown, ?_, ?_⟩
    · rcases found'.settles with gaveUp | settles'
      · exact Or.inl gaveUp
      · exact Or.inr (settles.bind settles')
    · intro result succeeded space known
      rcases known with before | now
      · exact found'.grown space (found.knows value rfl space before)
      · exact found'.knows result succeeded space now

end Finds

theorem typeSize_finds {structSize : UInt32 → Measure Nat}
    {declared : Nat → UInt32 → Except LayoutError Nat}
    (structs : ∀ space, Finds spaces (structSize space) (fun levels => declared levels space)
      fun other => other = space) (type : TypeDescriptor) :
    Finds spaces (typeSize structSize type)
      (fun levels => declaredTypeSize (declared levels) type) type.RefersTo := by
  unfold typeSize declaredTypeSize
  cases extent : type.extent with
  | error error =>
    apply (Finds.settle (.error error)).weaken
    rintro space ⟨count, found⟩
    rw [extent] at found
    cases found
  | ok extent' =>
    cases extent' with
    | scalars width count =>
      apply (Finds.settle (sizeProduct width count)).weaken
      rintro space ⟨count', found⟩
      rw [extent] at found
      cases found
    | structs space count =>
      have finish : ∀ size, Finds spaces
          (if size = 0 ∨ count = 0 then pure 0 else CompiledModule.settle (sizeProduct size count))
          (fun _ => if size = 0 ∨ count = 0 then pure 0 else sizeProduct size count)
          fun _ => False := by
        intro size
        by_cases empty : size = 0 ∨ count = 0
        · simp only [if_pos empty]
          exact Finds.settle (.ok 0)
        · simp only [if_neg empty]
          exact Finds.settle _
      apply ((structs space).bind finish).weaken
      rintro other ⟨count', found⟩
      rw [extent] at found
      cases found
      exact Or.inl rfl

theorem membersSize_finds {structSize : UInt32 → Measure Nat}
    {declared : Nat → UInt32 → Except LayoutError Nat}
    (structs : ∀ space, Finds spaces (structSize space) (fun levels => declared levels space)
      fun other => other = space) (total : Nat) (parts : VariableSpace) :
    Finds spaces (membersSize structSize total parts)
      (fun levels => declaredMembersSize (declared levels) total parts)
      fun space => ∃ part ∈ parts, part.type.RefersTo space := by
  induction parts generalizing total with
  | nil =>
    apply (Finds.settle (.ok total)).weaken
    rintro space ⟨part, member, -⟩
    cases member
  | cons part rest ih =>
    have sum : ∀ size, Finds spaces
        (CompiledModule.settle (sizeSum total size) >>= fun next =>
          membersSize structSize next rest)
        (fun levels => sizeSum total size >>= fun next =>
          declaredMembersSize (declared levels) next rest) _ :=
      fun size => (Finds.settle (sizeSum total size)).bind ih
    apply ((typeSize_finds structs part.type).bind sum).weaken
    rintro space ⟨other, member, refers⟩
    rcases List.mem_cons.mp member with rfl | member
    · exact Or.inl refers
    · exact Or.inr (Or.inr ⟨other, member, refers⟩)

/-! ## Measuring one struct -/

section Struct

variable {levels : Nat} {opened : List UInt32} {space : UInt32} {parts : VariableSpace}
  {sizes : SizeCache}

theorem structSize_unavailable {error : LayoutError} (missing : membersOf spaces space = .error error) :
    structSize spaces (levels + 1) opened space sizes = .error error sizes := by
  unfold structSize
  rw [missing]
  rfl

/-- A space that is there is measured only if its size is not known. -/
theorem structSize_asked (levels : Nat) (available : membersOf spaces space = .ok parts) :
    structSize spaces (levels + 1) opened space sizes =
      (match sizes.lookup space with
        | some size => pure size
        | none => do
          if space ∈ opened then
            throw tooDeep
          let size ← membersSize (structSize spaces levels (space :: opened)) 0 parts
          modify ((space, size) :: ·)
          return size : Measure Nat) sizes := by
  unfold structSize
  rw [available]
  rfl

theorem structSize_known {size : Nat} (available : membersOf spaces space = .ok parts)
    (known : sizes.lookup space = some size) :
    structSize spaces (levels + 1) opened space sizes = .ok size sizes := by
  rw [structSize_asked levels available, known]
  rfl

theorem structSize_opened (available : membersOf spaces space = .ok parts)
    (unknown : sizes.lookup space = none) (open' : space ∈ opened) :
    structSize spaces (levels + 1) opened space sizes = .error tooDeep sizes := by
  rw [structSize_asked levels available, unknown]
  simp only [if_pos open']
  rfl

theorem structSize_unknown (levels : Nat) (available : membersOf spaces space = .ok parts)
    (unknown : sizes.lookup space = none) (closed : space ∉ opened) :
    structSize spaces (levels + 1) opened space sizes =
      match membersSize (structSize spaces levels (space :: opened)) 0 parts sizes with
      | .ok size after => .ok size ((space, size) :: after)
      | .error error after => .error error after := by
  rw [structSize_asked levels available, unknown]
  simp only [if_neg closed]
  change EStateM.bind _ _ sizes = _
  unfold EStateM.bind
  cases membersSize (structSize spaces levels (space :: opened)) 0 parts sizes <;> rfl

end Struct

/-- A struct has the size that its members have together, or their error. -/
theorem Settles.struct {space : UInt32} {parts : VariableSpace} {outcome : Except LayoutError Nat}
    (available : membersOf spaces space = .ok parts)
    (settles : Settles
      (fun levels => declaredMembersSize (declaredStructSize spaces levels) 0 parts) outcome) :
    Settles (fun levels => declaredStructSize spaces levels space) outcome := by
  apply Settles.of_succ
  unfold declaredStructSize
  rw [available]
  exact settles

/-- A space is added to the cache only after its members have been measured, so that they are known
by then. -/
theorem Found.remember {space : UInt32} {parts : VariableSpace} {sizes after : SizeCache}
    {size : Nat} (available : membersOf spaces space = .ok parts)
    (found : Found spaces
      (fun levels => declaredMembersSize (declaredStructSize spaces levels) 0 parts)
      (fun inner => ∃ part ∈ parts, part.type.RefersTo inner) sizes (.ok size) after) :
    Found spaces (fun levels => declaredStructSize spaces levels space)
      (fun other => other = space) sizes (.ok size) ((space, size) :: after) := by
  have settles := Settles.struct available (found.settles.resolve_left (by simp))
  constructor
  · apply found.sound.cons settles available
    intro part member inner refers
    exact found.knows size rfl inner ⟨part, member, refers⟩
  · exact found.grown.trans (SizeCache.within_cons after space size)
  · exact Or.inr settles
  · rintro _ - _ rfl
    exact (SizeCache.knows_cons after _ _ size).mpr (Or.inl rfl)

/-- The induction is on the levels; the members are one level deeper. -/
theorem structSize_finds (levels : Nat) (opened : List UInt32) (space : UInt32) :
    Finds spaces (structSize spaces levels opened space)
      (fun levels => declaredStructSize spaces levels space) fun other => other = space := by
  induction levels generalizing opened space with
  | zero =>
    intro sizes sound
    exact ⟨.error tooDeep, sizes, rfl, sound, .refl sizes, Or.inl rfl, fun _ impossible => by
      cases impossible⟩
  | succ levels ih =>
    intro sizes sound
    cases available : membersOf spaces space with
    | error error =>
      have declared : Settles (fun levels => declaredStructSize spaces levels space)
          (.error error) := by
        apply Settles.of_succ
        unfold declaredStructSize
        rw [available]
        exact Settles.const _
      exact ⟨.error error, sizes, structSize_unavailable available, sound, .refl sizes,
        Or.inr declared, fun _ impossible => by cases impossible⟩
    | ok parts =>
      cases known : sizes.lookup space with
      | some size =>
        refine ⟨.ok size, sizes, structSize_known available known, sound, .refl sizes,
          Or.inr (sound.size space size known), ?_⟩
        rintro _ - _ rfl
        exact ⟨size, known⟩
      | none =>
        by_cases open' : space ∈ opened
        · exact ⟨.error tooDeep, sizes, structSize_opened available known open', sound,
            .refl sizes, Or.inl rfl, fun _ impossible => by cases impossible⟩
        rcases membersSize_finds (ih (space :: opened)) 0 parts sizes sound
          with ⟨outcome, after, ran, found⟩
        have whole := structSize_unknown levels available known open'
        rw [ran] at whole
        cases outcome with
        | error error =>
          exact ⟨.error error, after, whole, found.sound, found.grown,
            found.settles.imp_right (Settles.struct available), fun _ impossible => by
              cases impossible⟩
        | ok size =>
          exact ⟨.ok size, (space, size) :: after, whole, found.remember available⟩

theorem structSize_sound {levels : Nat} {opened : List UInt32} {space : UInt32}
    {sizes after : SizeCache} {size : Nat} (sound : sizes.Sound spaces)
    (ran : structSize spaces levels opened space sizes = .ok size after) : after.Sound spaces := by
  rcases structSize_finds levels opened space sizes sound with ⟨outcome, after', ran', found⟩
  rw [ran] at ran'
  cases outcome with
  | error error => cases ran'
  | ok size' =>
    cases ran'
    exact found.sound

/-- What has been measured once is known from then on. -/
theorem structSize_again {levels : Nat} {opened : List UInt32} {space : UInt32}
    {sizes after : SizeCache} {size : Nat} (sound : sizes.Sound spaces)
    (ran : structSize spaces (levels + 1) opened space sizes = .ok size after) :
    after.Knows space ∧ structSize spaces (levels + 1) opened space after = .ok size after := by
  rcases structSize_finds (levels + 1) opened space sizes sound with ⟨outcome, after', ran', found⟩
  cases available : membersOf spaces space with
  | error error =>
    rw [structSize_unavailable available] at ran
    cases ran
  | ok parts =>
    rw [ran] at ran'
    cases outcome with
    | error error => cases ran'
    | ok size' =>
      cases ran'
      rcases found.knows size rfl space rfl with ⟨size', known⟩
      have settles := found.settles.resolve_left (by simp)
      cases settles.unique (found.sound.size space size' known)
      exact ⟨⟨size, known⟩, structSize_known available known⟩

theorem measure_finds (type : TypeDescriptor) :
    Finds spaces (measure spaces type) (declaredSize spaces type) type.RefersTo :=
  typeSize_finds (structSize_finds nestingLimit []) type

end CompiledModule
