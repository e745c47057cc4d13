import CompiledModule.Layout.Block
import CompiledModule.Proofs.Layout.SizeCache

namespace CompiledModule

/-!
# Measurements that remember

Two measurements of one type, made with different sizes remembered, can only differ in that one of
them gives up at the limit of nesting: a size that is remembered is not measured again, so the
structs in it are not counted.  When the second cache knows all that the first one knows, it is the
first measurement that gives up.

A walk that has begun does not see the difference any more.  Measuring a struct to the end makes
every size known that the walk will need, and two sound caches agree on all sizes that both know.
-/

variable {spaces : List VariableSpace} {excuse : LayoutError → Prop}

/-! ## Measurements that keep step -/

section Coupling

variable {caches : SizeCache → SizeCache → Prop} {left right : UInt32 → Measure Nat}

theorem typeSize_coupled {type : TypeDescriptor}
    (structs : ∀ space, type.RefersTo space →
      Coupled excuse caches Eq (left space) (right space)) :
    Coupled excuse caches Eq (typeSize left type) (typeSize right type) := by
  unfold typeSize
  apply Coupled.bind_settle
  intro extent found
  cases extent with
  | scalars width count => exact Coupled.settle _
  | structs space count =>
    apply Coupled.bind_same (structs space ⟨count, found⟩)
    intro size
    by_cases empty : size = 0 ∨ count = 0
    · simp only [if_pos empty]
      exact Coupled.pure rfl
    · simp only [if_neg empty]
      exact Coupled.settle _

theorem membersSize_coupled {parts : VariableSpace}
    (structs : ∀ part ∈ parts, ∀ space, part.type.RefersTo space →
      Coupled excuse caches Eq (left space) (right space)) (total : Nat) :
    Coupled excuse caches Eq (membersSize left total parts) (membersSize right total parts) := by
  induction parts generalizing total with
  | nil => exact Coupled.pure rfl
  | cons part rest ih =>
    apply Coupled.bind_same (typeSize_coupled (structs part List.mem_cons_self))
    intro size
    apply Coupled.bind_same (Coupled.settle _)
    intro next
    exact ih (fun other member => structs other (List.mem_cons_of_mem _ member)) next

end Coupling

/-- Measuring a space that a sound cache knows teaches nothing that the cache does not know, also
when it starts from a poorer one. -/
theorem structSize_within {others : SizeCache} (sound : others.Sound spaces) (levels : Nat)
    (opened : List UInt32) {space : UInt32} (known : others.Knows space) :
    Coupled noExcuse (fun s t => s = t ∧ s.Within others) Eq
      (structSize spaces levels opened space) (structSize spaces levels opened space) := by
  induction levels generalizing opened space with
  | zero => exact Coupled.throw _
  | succ levels ih =>
    rintro sizes _ ⟨rfl, within⟩
    cases available : membersOf spaces space with
    | error error =>
      rw [structSize_unavailable available]
      exact Or.inl ⟨rfl, rfl, within⟩
    | ok parts =>
      cases found : sizes.lookup space with
      | some size =>
        rw [structSize_known available found]
        exact ⟨rfl, rfl, within⟩
      | none =>
        by_cases open' : space ∈ opened
        · rw [structSize_opened available found open']
          exact Or.inl ⟨rfl, rfl, within⟩
        rw [structSize_unknown levels available found open']
        have members : Coupled noExcuse (fun s t => s = t ∧ s.Within others) Eq
            (membersSize (structSize spaces levels (space :: opened)) 0 parts)
            (membersSize (structSize spaces levels (space :: opened)) 0 parts) :=
          membersSize_coupled (fun part member inner refers =>
            ih (space :: opened) (sound.members space parts known available part member inner
              refers)) 0
        have ends := members sizes sizes ⟨rfl, within⟩
        revert ends
        cases membersSize (structSize spaces levels (space :: opened)) 0 parts sizes with
        | error error after => exact id
        | ok size after =>
          rintro ⟨-, -, after'⟩
          refine ⟨rfl, rfl, fun other knows => ?_⟩
          rcases (SizeCache.knows_cons after space other size).mp knows with rfl | knows
          · exact known
          · exact after' other knows

/-- Two sound caches, the second of which knows all that the first one knows. -/
structure SizeCache.Trails (spaces : List VariableSpace) (sizes others : SizeCache) : Prop where
  sound : sizes.Sound spaces
  ahead : others.Sound spaces
  within : sizes.Within others

theorem SizeCache.Sound.trails {sizes : SizeCache} (sound : sizes.Sound spaces) :
    sizes.Trails spaces sizes :=
  ⟨sound, sound, .refl sizes⟩

/-- The richer cache has the declared size, so the poorer one finds it or gives up. -/
theorem structSize_overtaken {sizes others : SizeCache} (trails : sizes.Trails spaces others)
    (levels : Nat) (opened : List UInt32) {space : UInt32} {parts : VariableSpace} {size : Nat}
    (available : membersOf spaces space = .ok parts) (ahead : others.lookup space = some size) :
    EndAlike (· = tooDeep) (SizeCache.Trails spaces) Eq
      (structSize spaces (levels + 1) opened space sizes)
      (structSize spaces (levels + 1) opened space others) := by
  have declared := trails.ahead.size space size ahead
  have learnt := structSize_within trails.ahead (levels + 1) opened ⟨size, ahead⟩ sizes sizes
    ⟨rfl, trails.within⟩
  rcases structSize_finds (levels + 1) opened space sizes trails.sound
    with ⟨outcome, after, ran, found⟩
  rw [structSize_known available ahead, ran]
  rw [ran] at learnt
  cases outcome with
  | error error =>
    rcases found.settles with gaveUp | settles
    · exact Except.error.inj gaveUp
    · cases settles.unique declared
  | ok size' =>
    have settles := found.settles.resolve_left (by simp)
    cases settles.unique declared
    exact ⟨rfl, found.sound, trails.ahead, learnt.2.2⟩

/-- Neither cache knows the struct, so both measure its members. -/
theorem structSize_side_by_side {sizes others : SizeCache} (trails : sizes.Trails spaces others)
    {levels : Nat} {opened : List UInt32} {space : UInt32} {parts : VariableSpace}
    (available : membersOf spaces space = .ok parts) (unknown : others.lookup space = none)
    (closed : space ∉ opened)
    (members : EndAlike (· = tooDeep) (SizeCache.Trails spaces) Eq
      (membersSize (structSize spaces levels (space :: opened)) 0 parts sizes)
      (membersSize (structSize spaces levels (space :: opened)) 0 parts others)) :
    EndAlike (· = tooDeep) (SizeCache.Trails spaces) Eq
      (structSize spaces (levels + 1) opened space sizes)
      (structSize spaces (levels + 1) opened space others) := by
  have behind := trails.within.lookup_eq_none unknown
  have whole := structSize_unknown levels available behind closed
  have whole' := structSize_unknown levels available unknown closed
  revert members whole whole'
  cases membersSize (structSize spaces levels (space :: opened)) 0 parts sizes with
  | error error after =>
    cases membersSize (structSize spaces levels (space :: opened)) 0 parts others with
    | error error' after' =>
      intro members whole whole'
      rw [whole, whole']
      exact members
    | ok size' after' =>
      intro members whole whole'
      rw [whole, whole']
      exact members
  | ok size after =>
    cases membersSize (structSize spaces levels (space :: opened)) 0 parts others with
    | error error' after' =>
      intro members
      exact members.elim
    | ok size' after' =>
      intro members whole whole'
      rcases members with ⟨same, trailing⟩
      rw [whole, whole']
      exact ⟨same, structSize_sound trails.sound whole, structSize_sound trails.ahead whole',
        trailing.within.cons space size size'⟩

/-- The measurement with the poorer cache comes to the same size or error, unless it gives up. -/
theorem structSize_trails (levels : Nat) (opened : List UInt32) (space : UInt32) :
    Coupled (· = tooDeep) (SizeCache.Trails spaces) Eq (structSize spaces levels opened space)
      (structSize spaces levels opened space) := by
  induction levels generalizing opened space with
  | zero => exact Coupled.throw _
  | succ levels ih =>
    intro sizes others trails
    cases available : membersOf spaces space with
    | error error =>
      rw [structSize_unavailable available, structSize_unavailable available]
      exact Or.inl ⟨rfl, trails⟩
    | ok parts =>
      cases ahead : others.lookup space with
      | some size => exact structSize_overtaken trails levels opened available ahead
      | none =>
        by_cases open' : space ∈ opened
        · have behind := trails.within.lookup_eq_none ahead
          rw [structSize_opened available behind open', structSize_opened available ahead open']
          exact Or.inl ⟨rfl, trails⟩
        · apply structSize_side_by_side trails available ahead open'
          exact membersSize_coupled
            (fun (part : Variable) (_ : part ∈ parts) inner _ => ih (space :: opened) inner) 0
            sizes others trails

theorem measure_trails (type : TypeDescriptor) :
    Coupled (· = tooDeep) (SizeCache.Trails spaces) Eq (measure spaces type)
      (measure spaces type) :=
  typeSize_coupled fun space _ => structSize_trails nestingLimit [] space

/-! ## Sizes that walks agree on -/

/-- The same sizes are known, all of them right, and none of those known at the start is lost. -/
def SizeCache.Grown (spaces : List VariableSpace) (start sizes others : SizeCache) : Prop :=
  sizes = others ∧ start.Trails spaces sizes

/-- A sound cache stays sound and forgets nothing, whatever is measured. -/
theorem sizesAlike_grown (spaces : List VariableSpace) (start : SizeCache) :
    SizesAlike excuse spaces (SizeCache.Grown spaces start) fun _ => True where
  size levels space _ := by
    rintro sizes _ ⟨rfl, trails⟩
    rcases structSize_finds levels [] space sizes trails.ahead with ⟨outcome, after, ran, found⟩
    have grown : start.Trails spaces after :=
      ⟨trails.sound, found.sound, trails.within.trans found.grown⟩
    rw [ran]
    cases outcome with
    | ok size => exact ⟨rfl, rfl, grown⟩
    | error error => exact Or.inl ⟨rfl, rfl, grown⟩
  members _ _ _ _ _ _ _ _ := trivial

/-- Two sound caches agree on the spaces that both know, and learn nothing from them. -/
theorem sizesAlike_known {sizes others : SizeCache} (sound : sizes.Sound spaces)
    (sound' : others.Sound spaces) :
    SizesAlike excuse spaces (fun s t => s = sizes ∧ t = others)
      fun space => sizes.Knows space ∧ others.Knows space where
  size levels space known := by
    rintro _ _ ⟨rfl, rfl⟩
    rcases known with ⟨⟨size, found⟩, size', found'⟩
    cases levels with
    | zero => exact Or.inl ⟨rfl, rfl, rfl⟩
    | succ levels =>
      cases available : membersOf spaces space with
      | error error =>
        rw [structSize_unavailable available, structSize_unavailable available]
        exact Or.inl ⟨rfl, rfl, rfl⟩
      | ok parts =>
        have declared := sound.size space size found
        have declared' := sound'.size space size' found'
        cases declared.unique declared'
        rw [structSize_known available found, structSize_known available found']
        exact ⟨rfl, rfl, rfl⟩
  members space parts known available part member inner refers :=
    ⟨sound.members space parts known.1 available part member inner refers,
      sound'.members space parts known.2 available part member inner refers⟩

/-- Types without structs have no sizes to agree on. -/
theorem sizesAlike_none (spaces : List VariableSpace) :
    SizesAlike excuse spaces (fun _ _ => True) fun _ => False where
  size _ _ impossible := impossible.elim
  members _ _ impossible := impossible.elim

end CompiledModule
