import CompiledModule.Proofs.Layout.WalkAlike
import Mathlib.Algebra.BigOperators.Group.List.Basic
import Mathlib.Algebra.Ring.Nat
import Mathlib.Data.List.Chain
import Mathlib.Logic.Relation

namespace CompiledModule

/-!
# Sizes as numbers

A type has a size without anybody computing it: the product of the counts of its arrays, times the
width of the scalar that the arrays are made of, or times the sizes of the members of the struct
together.  This is a matter of natural numbers of any magnitude.  There is no limit of 64 bits, no
limit of nesting and nothing that is remembered.

Not every type has a size.  Its chain may end in nothing, its struct may have no space, and the same
may be true of the members, their members, and so on; and the structs may go round in a circle.
`HasSize` has no derivation in any of these cases, and that is all there is to being well formed.
-/

/-! ## Chains of links -/

def Link.isArray (link : Link) : Bool :=
  link.tag == BaseType.array.tag

def countProduct (links : List Link) : Nat :=
  (links.map (·.count.toNat)).prod

/-- What the first link that is no array stands for. -/
def elementOf? (links : List Link) : Option BaseType :=
  (links.find? (!·.isArray)).bind (BaseType.ofTag? ·.tag)

def BaseType.run? (members : UInt32) (count : Nat) : BaseType → Option Extent
  | .scalar kind => some (.scalars kind.width count)
  | .struct => some (.structs members count)
  | .array => none

/-- A product of counts only grows with more of them, if none is zero. -/
theorem countProduct_take_le {links : List Link} (positive : 0 < countProduct links)
    (taken : Nat) : countProduct (links.take taken) ≤ countProduct links := by
  have split : countProduct links =
      countProduct (links.take taken) * countProduct (links.drop taken) := by
    rw [countProduct, countProduct, countProduct, ← List.prod_append, ← List.map_append,
      List.take_append_drop]
  rw [split] at positive ⊢
  exact Nat.le_mul_of_pos_right _ (Nat.pos_of_mul_pos_left positive)

theorem elementOf?_array {link : Link} (array : link.isArray = true) (rest : List Link) :
    elementOf? (link :: rest) = elementOf? rest := by
  simp [elementOf?, array]

theorem elementOf?_last {link : Link} (last : link.isArray = false) (rest : List Link) :
    elementOf? (link :: rest) = BaseType.ofTag? link.tag := by
  simp [elementOf?, last]

theorem ofTag?_eq_array {link : Link} :
    BaseType.ofTag? link.tag = some .array ↔ link.isArray = true := by
  constructor
  · intro found
    rw [Link.isArray, ← BaseType.tag_of_ofTag? found]
    exact beq_self_eq_true _
  · intro array
    rw [eq_of_beq array]
    exact BaseType.ofTag?_tag .array

/-- What the links describe, when it is described at all. -/
theorem run_of_extentFrom {members : UInt32} {index count : Nat} {links : List Link}
    {extent : Extent} (found : TypeDescriptor.extentFrom members index count links = .ok extent) :
    ∃ base, elementOf? links = some base ∧
      base.run? members (count * countProduct (links.takeWhile Link.isArray)) = some extent := by
  induction links generalizing index count with
  | nil => cases found
  | cons link rest ih =>
    rw [TypeDescriptor.extentFrom] at found
    cases base : BaseType.ofTag? link.tag with
    | none =>
      rw [base] at found
      cases found
    | some base' =>
      rw [base] at found
      cases array : link.isArray with
      | true =>
        rw [ofTag?_eq_array.mpr array] at base
        cases base
        cases total : sizeProduct count link.count.toNat with
        | error error =>
          simp only [total] at found
          cases found
        | ok total' =>
          simp only [total] at found
          rcases ih found with ⟨base, last, run⟩
          refine ⟨base, (elementOf?_array array rest).trans last, ?_⟩
          rw [List.takeWhile_cons_of_pos array, countProduct, List.map_cons, List.prod_cons,
            ← Nat.mul_assoc, (sizeProduct_eq_ok.mp total).1]
          exact run
      | false =>
        refine ⟨base', (elementOf?_last array rest).trans base, ?_⟩
        rw [List.takeWhile_cons_of_neg (by simp [array]), countProduct, List.map_nil,
          List.prod_nil, Nat.mul_one]
        cases base' with
        | scalar kind =>
          cases found
          rfl
        | struct =>
          cases found
          rfl
        | array =>
          rw [ofTag?_eq_array.mp base] at array
          cases array

/-- What the links describe is found if no product on the way is too large. -/
theorem extentFrom_of_run {members : UInt32} {index count : Nat} {links : List Link}
    {base : BaseType} {extent : Extent} (ends : elementOf? links = some base)
    (run : base.run? members (count * countProduct (links.takeWhile Link.isArray)) = some extent)
    (fits : ∀ taken, count * countProduct ((links.takeWhile Link.isArray).take taken) <
      sizeLimit) :
    TypeDescriptor.extentFrom members index count links = .ok extent := by
  induction links generalizing index count with
  | nil => cases ends
  | cons link rest ih =>
    rw [TypeDescriptor.extentFrom]
    cases array : link.isArray with
    | true =>
      rw [elementOf?_array array] at ends
      rw [List.takeWhile_cons_of_pos array, countProduct, List.map_cons, List.prod_cons,
        ← Nat.mul_assoc] at run
      rw [List.takeWhile_cons_of_pos array] at fits
      have next : ∀ taken, count * link.count.toNat *
          countProduct ((rest.takeWhile Link.isArray).take taken) < sizeLimit := by
        intro taken
        have fit := fits (taken + 1)
        rw [List.take_succ_cons, countProduct, List.map_cons, List.prod_cons,
          ← Nat.mul_assoc] at fit
        exact fit
      have total : sizeProduct count link.count.toNat = .ok (count * link.count.toNat) := by
        have fit := next 0
        rw [List.take_zero, countProduct, List.map_nil, List.prod_nil, Nat.mul_one] at fit
        exact sizeProduct_eq_ok.mpr ⟨rfl, fit⟩
      rw [ofTag?_eq_array.mpr array]
      simp only [total]
      exact ih ends run next
    | false =>
      rw [elementOf?_last array] at ends
      rw [List.takeWhile_cons_of_neg (by simp [array]), countProduct, List.map_nil,
        List.prod_nil, Nat.mul_one] at run
      rw [ends]
      cases base with
      | scalar kind =>
        cases run
        rfl
      | struct =>
        cases run
        rfl
      | array => cases run

/-- Nothing is found if a product on the way is too large, whatever the links behind it hold. -/
theorem extentFrom_overflow {members : UInt32} {index count taken : Nat} {links : List Link}
    (small : count < sizeLimit)
    (exceeds : sizeLimit ≤ count * countProduct ((links.takeWhile Link.isArray).take taken)) :
    TypeDescriptor.extentFrom members index count links = .error .overflow := by
  have one : countProduct [] = 1 := rfl
  induction links generalizing index count taken with
  | nil =>
    rw [List.takeWhile_nil, List.take_nil, one] at exceeds
    omega
  | cons link rest ih =>
    cases array : link.isArray with
    | false =>
      rw [List.takeWhile_cons_of_neg (by simp [array]), List.take_nil, one] at exceeds
      omega
    | true =>
      rw [List.takeWhile_cons_of_pos array] at exceeds
      rw [TypeDescriptor.extentFrom, ofTag?_eq_array.mpr array]
      cases taken with
      | zero =>
        rw [List.take_zero, one] at exceeds
        omega
      | succ taken =>
        rw [List.take_succ_cons, countProduct, List.map_cons, List.prod_cons,
          ← Nat.mul_assoc] at exceeds
        by_cases fits : count * link.count.toNat < sizeLimit
        · simp only [sizeProduct, if_pos fits]
          exact ih fits exceeds
        · simp only [sizeProduct, if_neg fits]
          rfl

namespace TypeDescriptor

/-- The array links in front of the first link that is no array. -/
def arrays (type : TypeDescriptor) : List Link :=
  type.links.toList.takeWhile Link.isArray

/-- How many elements all the arrays have together; a type without arrays is one element. -/
def elementCount (type : TypeDescriptor) : Nat :=
  countProduct type.arrays

def element? (type : TypeDescriptor) : Option BaseType :=
  elementOf? type.links.toList

def IsStructOf (type : TypeDescriptor) (space : UInt32) : Prop :=
  type.element? = some .struct ∧ type.members = space

/-- The elements are scalars, or structs of a space that exists. -/
def EndsIn (spaces : List VariableSpace) (type : TypeDescriptor) : Prop :=
  (∃ kind, type.element? = some (.scalar kind)) ∨
    (type.element? = some .struct ∧ type.members.toNat < spaces.length)

/-- The product of the counts stays a size with every array. -/
def CountsFit (type : TypeDescriptor) : Prop :=
  ∀ taken, countProduct (type.arrays.take taken) < sizeLimit

variable {type : TypeDescriptor} {kind : Scalar} {space : UInt32} {width count : Nat}

theorem run_of_extent {extent : Extent} (found : type.extent = .ok extent) :
    ∃ base, type.element? = some base ∧
      base.run? type.members type.elementCount = some extent := by
  rcases run_of_extentFrom found with ⟨base, ends, run⟩
  rw [Nat.one_mul] at run
  exact ⟨base, ends, run⟩

theorem scalars_of_extent (found : type.extent = .ok (.scalars width count)) :
    ∃ kind, type.element? = some (.scalar kind) ∧ width = kind.width ∧
      count = type.elementCount := by
  rcases run_of_extent found with ⟨base, ends, run⟩
  cases base with
  | scalar kind =>
    cases run
    exact ⟨kind, ends, rfl, rfl⟩
  | array => cases run
  | struct => cases run

theorem structs_of_extent (found : type.extent = .ok (.structs space count)) :
    type.IsStructOf space ∧ count = type.elementCount := by
  rcases run_of_extent found with ⟨base, ends, run⟩
  cases base with
  | scalar kind => cases run
  | array => cases run
  | struct =>
    cases run
    exact ⟨⟨ends, rfl⟩, rfl⟩

theorem extent_of_run {base : BaseType} {extent : Extent} (fits : type.CountsFit)
    (ends : type.element? = some base)
    (run : base.run? type.members type.elementCount = some extent) :
    type.extent = .ok extent := by
  apply extentFrom_of_run ends
  · rw [Nat.one_mul]
    exact run
  · intro taken
    rw [Nat.one_mul]
    exact fits taken

theorem extent_scalars (fits : type.CountsFit) (ends : type.element? = some (.scalar kind)) :
    type.extent = .ok (.scalars kind.width type.elementCount) :=
  extent_of_run fits ends rfl

theorem extent_structs (fits : type.CountsFit) (ends : type.element? = some .struct) :
    type.extent = .ok (.structs type.members type.elementCount) :=
  extent_of_run fits ends rfl

theorem extent_overflow (large : ¬ type.CountsFit) : type.extent = .error .overflow := by
  unfold CountsFit at large
  push Not at large
  rcases large with ⟨taken, exceeds⟩
  apply extentFrom_overflow (by decide)
  rw [Nat.one_mul]
  exact exceeds

end TypeDescriptor

/-! ## Types inside types -/

/-- The elements of the outer type are structs that have a member of the inner type. -/
def Contains (spaces : List VariableSpace) (outer inner : TypeDescriptor) : Prop :=
  outer.element? = some .struct ∧
    ∃ parts, spaces[outer.members.toNat]? = some parts ∧ ∃ part ∈ parts, part.type = inner

/-- The inner type is the outer one, or that of a member, or of a member's member, and so on. -/
abbrev Reaches (spaces : List VariableSpace) : TypeDescriptor → TypeDescriptor → Prop :=
  Relation.ReflTransGen (Contains spaces)

/-- A member of the outer space consists of structs of the inner one. -/
def Nests (spaces : List VariableSpace) (outer inner : UInt32) : Prop :=
  ∃ parts, spaces[outer.toNat]? = some parts ∧ ∃ part ∈ parts, part.type.IsStructOf inner

/-- A space goes round in a circle. -/
def Circular (spaces : List VariableSpace) (space : UInt32) : Prop :=
  Relation.TransGen (Nests spaces) space space

/-- Structs of this space occur in the type. -/
def ReachesSpace (spaces : List VariableSpace) (type : TypeDescriptor) (space : UInt32) : Prop :=
  ∃ inner, Reaches spaces type inner ∧ inner.IsStructOf space

/-- Every type inside the type ends in a scalar or in a struct that exists, and its structs do not go
round in a circle. -/
structure WellFormed (spaces : List VariableSpace) (type : TypeDescriptor) : Prop where
  ends : ∀ inner, Reaches spaces type inner → inner.EndsIn spaces
  acyclic : ∀ space, ReachesSpace spaces type space → ¬ Circular spaces space

/-- No more than `levels` structs are nested in one another, the type's own among them. -/
def NestsWithin (spaces : List VariableSpace) (type : TypeDescriptor) (levels : Nat) : Prop :=
  ∀ chain : List UInt32, chain.IsChain (Nests spaces) →
    (∀ first ∈ chain.head?, type.IsStructOf first) → chain.length ≤ levels

section Inside

variable {spaces : List VariableSpace} {type part inner : TypeDescriptor} {space other : UInt32}

theorem Contains.isStructOf (contains : Contains spaces type part) :
    type.IsStructOf type.members :=
  ⟨contains.1, rfl⟩

theorem nests_of_contains (contains : Contains spaces type part) (ends : part.IsStructOf space) :
    Nests spaces type.members space := by
  rcases contains with ⟨-, parts, available, found, member, rfl⟩
  exact ⟨parts, available, found, member, ends⟩

theorem nests_of_reaches (contains : Contains spaces type part)
    (reaches : ReachesSpace spaces part space) :
    Relation.TransGen (Nests spaces) type.members space := by
  rcases reaches with ⟨inner, reaches, ends⟩
  induction reaches using Relation.ReflTransGen.head_induction_on generalizing type with
  | refl => exact .single (nests_of_contains contains ends)
  | head next _ ih => exact .head (nests_of_contains contains next.isStructOf) (ih next)

/-- A way through the spaces is a way through types. -/
theorem reachesSpace_of_nests (nests : Relation.ReflTransGen (Nests spaces) space other)
    (ends : type.IsStructOf space) : ReachesSpace spaces type other := by
  induction nests using Relation.ReflTransGen.head_induction_on generalizing type with
  | refl => exact ⟨type, .refl, ends⟩
  | head next _ ih =>
    rcases next with ⟨parts, available, part, member, partEnds⟩
    rcases ih partEnds with ⟨inner, reaches, innerEnds⟩
    have contains : Contains spaces type part.type :=
      ⟨ends.1, parts, ends.2 ▸ available, part, member, rfl⟩
    exact ⟨inner, .head contains reaches, innerEnds⟩

theorem WellFormed.inside (wellFormed : WellFormed spaces type)
    (contains : Contains spaces type part) : WellFormed spaces part where
  ends inner reaches := wellFormed.ends inner (.head contains reaches)
  acyclic := by
    rintro space ⟨inner, reaches, ends⟩
    exact wellFormed.acyclic space ⟨inner, .head contains reaches, ends⟩

/-- A member of a well-formed struct has no structs of the struct's own space. -/
theorem WellFormed.not_reaches (wellFormed : WellFormed spaces type)
    (contains : Contains spaces type part) : ¬ ReachesSpace spaces part type.members := by
  intro reaches
  exact wellFormed.acyclic type.members ⟨type, .refl, contains.isStructOf⟩
    (nests_of_reaches contains reaches)

theorem NestsWithin.inside {levels : Nat} (within : NestsWithin spaces type (levels + 1))
    (contains : Contains spaces type part) : NestsWithin spaces part levels := by
  intro chain nested first
  cases chain with
  | nil => exact Nat.zero_le _
  | cons space rest =>
    have longer := within (type.members :: space :: rest)
      (List.isChain_cons_cons.mpr ⟨nests_of_contains contains (first space rfl), nested⟩)
      (fun space same => by cases same; exact contains.isStructOf)
    simpa using longer

/-- A struct is a level of its own. -/
theorem NestsWithin.positive {levels : Nat} (within : NestsWithin spaces type levels)
    (ends : type.element? = some .struct) : ∃ below, levels = below + 1 := by
  have one := within [type.members] (.singleton _) fun space same => by
    cases same
    exact ⟨ends, rfl⟩
  exact ⟨levels - 1, (Nat.sub_add_cancel one).symm⟩

theorem NestsWithin.mono {levels more : Nat} (within : NestsWithin spaces type levels)
    (enough : levels ≤ more) : NestsWithin spaces type more :=
  fun chain nested first => (within chain nested first).trans enough

end Inside

/-! ## Sizes -/

/-- The size of a type: its elements times their width, or times the sizes of their members. -/
inductive HasSize (spaces : List VariableSpace) : TypeDescriptor → Nat → Prop
  | scalars {type : TypeDescriptor} {kind : Scalar} (ends : type.element? = some (.scalar kind)) :
    HasSize spaces type (type.elementCount * kind.width)
  | structs {type : TypeDescriptor} {parts : VariableSpace} (sizes : TypeDescriptor → Nat)
    (ends : type.element? = some .struct) (available : spaces[type.members.toNat]? = some parts)
    (members : ∀ part ∈ parts, HasSize spaces part.type (sizes part.type)) :
    HasSize spaces type (type.elementCount * (parts.map fun part => sizes part.type).sum)

/-- Nothing that has to be computed for the size of a type is too large for 64 bits: no product of
counts, no size of a type inside the type, and no sum of the sizes of members. -/
structure SizesFit (spaces : List VariableSpace) (type : TypeDescriptor) : Prop where
  counts : ∀ inner, Reaches spaces type inner → inner.CountsFit
  sizes : ∀ inner, Reaches spaces type inner → ∀ size, HasSize spaces inner size → size < sizeLimit
  sums : ∀ space, ReachesSpace spaces type space → ∀ sum,
    HasSize spaces (.ofSpace space) sum → sum < sizeLimit

section HasSize

variable {spaces : List VariableSpace} {type part inner : TypeDescriptor} {space : UInt32}
  {size other : Nat}

theorem elementCount_ofSpace (space : UInt32) : (TypeDescriptor.ofSpace space).elementCount = 1 :=
  rfl

theorem HasSize.unique (has : HasSize spaces type size) (again : HasSize spaces type other) :
    size = other := by
  induction has generalizing other with
  | scalars ends =>
    cases again with
    | scalars ends' =>
      rw [ends] at ends'
      cases ends'
      rfl
    | structs _ ends' =>
      rw [ends] at ends'
      cases ends'
  | structs sizes ends available members ih =>
    cases again with
    | scalars ends' =>
      rw [ends] at ends'
      cases ends'
    | structs sizes' ends' available' members' =>
      rw [available] at available'
      cases available'
      congr 2
      apply List.map_congr_left
      intro part member
      exact ih part member (members' part member)

/-- The sum of the sizes of a space's members is the size of one struct. -/
theorem HasSize.ofSpace {parts : VariableSpace} (sizes : TypeDescriptor → Nat)
    (available : spaces[space.toNat]? = some parts)
    (members : ∀ part ∈ parts, HasSize spaces part.type (sizes part.type)) :
    HasSize spaces (.ofSpace space) (parts.map fun part => sizes part.type).sum := by
  have one : HasSize spaces (.ofSpace space) _ := .structs sizes rfl available members
  rwa [elementCount_ofSpace, Nat.one_mul] at one

theorem HasSize.endsIn (has : HasSize spaces type size) : type.EndsIn spaces := by
  cases has with
  | scalars ends => exact Or.inl ⟨_, ends⟩
  | structs _ ends available _ =>
    exact Or.inr ⟨ends, (List.getElem?_eq_some_iff.mp available).1⟩

theorem HasSize.inside (has : HasSize spaces type size) (contains : Contains spaces type part) :
    ∃ size, HasSize spaces part size := by
  rcases contains with ⟨ends, parts, available, found, member, rfl⟩
  cases has with
  | scalars ends' =>
    rw [ends] at ends'
    cases ends'
  | structs sizes _ available' members =>
    rw [available] at available'
    cases available'
    exact ⟨_, members found member⟩

theorem HasSize.reached (has : HasSize spaces type size) (reaches : Reaches spaces type inner) :
    ∃ size, HasSize spaces inner size := by
  induction reaches with
  | refl => exact ⟨size, has⟩
  | tail _ contains ih =>
    rcases ih with ⟨size, has⟩
    exact has.inside contains

/-- A circle through a struct would be a circle through one of its members, and there is none in
the members. -/
theorem HasSize.not_circular (has : HasSize spaces type size)
    (reaches : ReachesSpace spaces type space) : ¬ Circular spaces space := by
  induction has generalizing space with
  | scalars ends =>
    rcases reaches with ⟨inner, reaches, innerEnds⟩
    rcases Relation.ReflTransGen.cases_head reaches with rfl | ⟨_, contains, -⟩
    · have same := ends.symm.trans innerEnds.1
      cases same
    · have same := ends.symm.trans contains.1
      cases same
  | structs sizes ends available members ih =>
    intro circular
    rcases reaches with ⟨inner, reaches, innerEnds⟩
    rcases Relation.ReflTransGen.cases_head reaches with rfl | ⟨_, contains, reaches⟩
    · rcases Relation.TransGen.head'_iff.mp circular with ⟨_, nests, back⟩
      rcases nests with ⟨parts, available', part, member, partEnds⟩
      rw [← innerEnds.2, available] at available'
      cases available'
      exact ih part member (reachesSpace_of_nests back partEnds) circular
    · rcases contains with ⟨-, parts, available', part, member, rfl⟩
      rw [available] at available'
      cases available'
      exact ih part member ⟨inner, reaches, innerEnds⟩ circular

theorem HasSize.wellFormed (has : HasSize spaces type size) : WellFormed spaces type where
  ends inner reaches := by
    rcases has.reached reaches with ⟨size, has⟩
    exact has.endsIn
  acyclic _ reaches := has.not_circular reaches

theorem SizesFit.inside (fit : SizesFit spaces type) (contains : Contains spaces type part) :
    SizesFit spaces part where
  counts inner reaches := fit.counts inner (.head contains reaches)
  sizes inner reaches := fit.sizes inner (.head contains reaches)
  sums := by
    rintro space ⟨inner, reaches, ends⟩
    exact fit.sums space ⟨inner, .head contains reaches, ends⟩

end HasSize

end CompiledModule
