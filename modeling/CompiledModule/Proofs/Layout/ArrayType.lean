import CompiledModule.Proofs.Layout.Visited

namespace CompiledModule

/-!
# Arrays of a type

An array of a type has one link more than the type, in front of the others.  They are moved back by
one, so the last of them has to be free; a free link stands for nothing, and nothing is lost with it.

So an array of elements of some size should be that many times as large, and it is if the product
is a size.  But counts are multiplied from the outside in, before anything is known of what they are
the counts of.  When the elements take no bytes, because one of their own counts is zero or because
they are structs without bytes, a product of counts may still be too large on the way.  The array is
then refused although it would take no bytes at all.
-/

variable {spaces : List VariableSpace} {sizes : SizeCache} {count : UInt32}
  {type element array : TypeDescriptor} {size : Nat}

/-! ## The chain of an array -/

namespace TypeDescriptor

theorem arrayOf?_eq_none : arrayOf? count element = none ↔ element.links.back.tag ≠ 0 := by
  unfold arrayOf?
  split <;> simp [*]

theorem takeWhile_free {free : Link} (unused : free.isArray = false) (front : List Link) :
    (front ++ [free]).takeWhile Link.isArray = front.takeWhile Link.isArray := by
  induction front with
  | nil => exact List.takeWhile_cons_of_neg (by simp [unused])
  | cons link rest ih =>
    rw [List.cons_append, List.takeWhile_cons, List.takeWhile_cons, ih]

/-- A free link stands for nothing, so nothing is found behind it. -/
theorem elementOf?_free {free : Link} (unused : free.tag = 0) (front : List Link) :
    elementOf? (front ++ [free]) = elementOf? front := by
  rw [elementOf?, elementOf?, List.find?_append]
  cases front.find? (!·.isArray) with
  | some link => rfl
  | none =>
    have nothing : BaseType.ofTag? free.tag = none := by
      rw [unused]
      rfl
    rw [Option.none_or, List.find?_singleton]
    split
    · exact nothing
    · rfl

theorem isStruct_iff : type.isStruct = true ↔ type.element? = some .struct := by
  have structs (tag : UInt8) : (tag == BaseType.struct.tag) = true ↔
      BaseType.ofTag? tag = some .struct := by
    constructor
    · intro same
      rw [eq_of_beq same]
      exact BaseType.ofTag?_tag .struct
    · intro found
      rw [← BaseType.tag_of_ofTag? found]
      exact beq_self_eq_true _
  have same : type.links.toList.find? (·.tag != BaseType.array.tag) =
      type.links.toList.find? (!·.isArray) := rfl
  rw [isStruct, element?, elementOf?, same]
  cases type.links.toList.find? (!·.isArray) with
  | some link => exact structs link.tag
  | none => simp

/-- The type has one array more than the type of its elements, and ends in the same. -/
structure Wraps (count : UInt32) (element array : TypeDescriptor) : Prop where
  arrays : array.arrays = ⟨BaseType.array.tag, count⟩ :: element.arrays
  element? : array.element? = element.element?
  members : array.members = element.members

/-- All links but the last, which is free, are moved back by one. -/
theorem wraps_of_arrayOf? (made : arrayOf? count element = some array) :
    Wraps count element array := by
  unfold arrayOf? at made
  split at made
  · rename_i unused
    cases made
    have before : element.links.toList = element.links.pop.toList ++ [element.links.back] := by
      rw [← Vector.toList_push, Vector.push_pop_back]
    have after : (#v[Link.mk BaseType.array.tag count] ++ element.links.pop).toList =
        ⟨BaseType.array.tag, count⟩ :: element.links.pop.toList := Vector.toList_append
    have first : Link.isArray ⟨BaseType.array.tag, count⟩ = true := rfl
    have last : element.links.back.isArray = false := by
      rw [Link.isArray, unused]
      rfl
    refine ⟨?_, ?_, rfl⟩
    · rw [arrays, arrays, before, after, List.takeWhile_cons_of_pos first, takeWhile_free last]
    · rw [element?, element?, before, after, elementOf?_array first, elementOf?_free unused]
  · cases made

theorem Wraps.isStruct (wraps : Wraps count element array) : array.isStruct = element.isStruct := by
  rw [Bool.eq_iff_iff, isStruct_iff, isStruct_iff, wraps.element?]

theorem Wraps.elementCount (wraps : Wraps count element array) :
    array.elementCount = count.toNat * element.elementCount := by
  rw [TypeDescriptor.elementCount, wraps.arrays]
  exact List.prod_cons

/-- The products that come up on the way are those of the elements, times the new count. -/
theorem Wraps.not_countsFit (wraps : Wraps count element array) :
    ¬ array.CountsFit ↔
      ∃ taken, sizeLimit ≤ count.toNat * countProduct (element.arrays.take taken) := by
  unfold CountsFit
  push Not
  rw [wraps.arrays]
  constructor
  · intro large
    rcases large with ⟨taken, large⟩
    cases taken with
    | zero =>
      have one : countProduct [] < sizeLimit := by decide
      exact absurd large (Nat.not_le.mpr one)
    | succ taken => exact ⟨taken, large.trans_eq List.prod_cons⟩
  · intro large
    rcases large with ⟨taken, large⟩
    exact ⟨taken + 1, large.trans_eq List.prod_cons.symm⟩

end TypeDescriptor

/-! ## The size of an array -/

/-- What a type is measured as is the size of one element, so many times.  Every other type that
consists of the same elements has their size from the same source. -/
theorem measured_elements (answered : measured spaces sizes type = .ok size) :
    ∃ one, size = type.elementCount * one ∧
      ∀ other : TypeDescriptor, other.CountsFit → other.element? = type.element? →
        other.members = type.members →
        measured spaces sizes other = sizeProduct other.elementCount one := by
  cases found : type.extent with
  | error error =>
    rw [measured_error found] at answered
    cases answered
  | ok extent =>
    cases extent with
    | scalars width count =>
      rcases TypeDescriptor.scalars_of_extent found with ⟨kind, ends, rfl, rfl⟩
      rw [measured_scalars found, sizeProduct_eq_ok] at answered
      refine ⟨kind.width, by rw [← answered.1, Nat.mul_comm], ?_⟩
      intro other fits same _
      rw [measured_scalars (TypeDescriptor.extent_scalars fits (same.trans ends)), sizeProduct,
        sizeProduct, Nat.mul_comm]
    | structs space count =>
      rcases TypeDescriptor.structs_of_extent found with ⟨⟨ends, rfl⟩, rfl⟩
      rw [measured_structs found] at answered
      cases struct : outcomeOf (structSize spaces nestingLimit [] type.members sizes) with
      | error error =>
        rw [struct] at answered
        cases answered
      | ok one =>
        rw [struct] at answered
        refine ⟨one, (structsSize_eq_ok.mp answered).1.symm, ?_⟩
        intro other fits same members
        rw [measured_structs (TypeDescriptor.extent_structs fits (same.trans ends)), members,
          struct]
        exact structsSize_eq _ one

/-- If no product of counts is too large, the array is as large as its elements together. -/
theorem measured_array (wraps : TypeDescriptor.Wraps count element array)
    (answered : measured spaces sizes element = .ok size) (fits : array.CountsFit) :
    measured spaces sizes array = sizeProduct count.toNat size := by
  rcases measured_elements answered with ⟨one, whole, others⟩
  rw [others array fits wraps.element? wraps.members, sizeProduct, sizeProduct, wraps.elementCount,
    whole, Nat.mul_assoc]

/-- Elements that take bytes bound the products of their counts. -/
theorem countsFit_of_size (wraps : TypeDescriptor.Wraps count element array)
    (answered : measured spaces sizes element = .ok size) (filled : 0 < size)
    (fits : count.toNat * size < sizeLimit) : array.CountsFit := by
  rcases measured_elements answered with ⟨one, whole, -⟩
  by_contra large
  rcases wraps.not_countsFit.mp large with ⟨taken, large⟩
  rw [whole] at filled fits
  have positive : 0 < element.elementCount := Nat.pos_of_mul_pos_right filled
  have below : countProduct (element.arrays.take taken) ≤ element.elementCount * one :=
    (countProduct_take_le positive taken).trans
      (Nat.le_mul_of_pos_right _ (Nat.pos_of_mul_pos_left filled))
  exact absurd (large.trans (Nat.mul_le_mul_left _ below)) (Nat.not_le.mpr fits)

/-- No array can be made of a type exactly when the last link of the type is in use, and an array
consists of structs exactly when its elements do.  A walker that has found the size of the element,
and may have been called since, finds the array so many times as large if that is a size, and
otherwise it refuses the array.  An array of elements without bytes has no bytes either, but it is
refused exactly if a product of its counts is too large on the way. -/
theorem usedWalker_measures_arrays (reached : sizes.Reachable spaces) (count : UInt32)
    (element : TypeDescriptor) :
    (TypeDescriptor.arrayOf? count element = none ↔ element.links.back.tag ≠ 0) ∧
    ∀ array, TypeDescriptor.arrayOf? count element = some array →
      array.isStruct = element.isStruct ∧
      ∀ size, measured spaces sizes element = .ok size → ∀ calls : List WalkerCall,
        let answer := measured spaces (calls.foldl (SizeCache.afterCall spaces) sizes) array
        (0 < size → answer =
          if count.toNat * size < sizeLimit then .ok (count.toNat * size) else .error .overflow) ∧
        (size = 0 →
          (answer = .ok 0 ∨ answer = .error .overflow) ∧
          (answer = .error .overflow ↔
            ∃ taken, sizeLimit ≤ count.toNat * countProduct (element.arrays.take taken))) := by
  refine ⟨TypeDescriptor.arrayOf?_eq_none, fun array made => ?_⟩
  have wraps := TypeDescriptor.wraps_of_arrayOf? made
  refine ⟨wraps.isStruct, fun size answered calls => ?_⟩
  intro answer
  have again := measured_later (reached.sound.trails_afterCalls calls) answered
  by_cases fits : array.CountsFit
  · have whole : answer = sizeProduct count.toNat size := measured_array wraps again fits
    rw [whole]
    constructor
    · intro _
      rfl
    · intro nothing
      have none : sizeProduct count.toNat size = .ok 0 :=
        sizeProduct_eq_ok.mpr ⟨by rw [nothing, Nat.mul_zero], by decide⟩
      rw [none, ← wraps.not_countsFit]
      simp [fits]
  · have refused : answer = .error .overflow :=
      measured_error (TypeDescriptor.extent_overflow fits)
    rw [refused]
    constructor
    · intro filled
      exact (if_neg fun small => fits (countsFit_of_size wraps again filled small)).symm
    · intro _
      exact ⟨Or.inr rfl, iff_of_true rfl (wraps.not_countsFit.mp fits)⟩

/-- Three rows of five words are measured.  Rows without bytes are refused when there are too many of
them, because the counts in front of the zero are multiplied first. -/
theorem usedWalker_measures_rows :
    let row : TypeDescriptor := ⟨#v[⟨17, 5⟩, ⟨4, 0⟩, ⟨0, 0⟩, ⟨0, 0⟩, ⟨0, 0⟩, ⟨0, 0⟩, ⟨0, 0⟩,
      ⟨0, 0⟩], 0⟩
    let nothing : TypeDescriptor := ⟨#v[⟨17, 0xffffffff⟩, ⟨17, 2⟩, ⟨17, 0⟩, ⟨6, 0⟩, ⟨0, 0⟩,
      ⟨0, 0⟩, ⟨0, 0⟩, ⟨0, 0⟩], 0⟩
    SizeCache.Reachable [] [] ∧
      (∃ rows, TypeDescriptor.arrayOf? 3 row = some rows ∧ measured [] [] rows = .ok 30) ∧
      measured [] [] nothing = .ok 0 ∧
      ∃ rows, TypeDescriptor.arrayOf? 0xffffffff nothing = some rows ∧
        measured [] [] rows = .error .overflow := by
  intro row nothing
  have reached : SizeCache.Reachable [] [] := .fresh
  have filled : measured [] [] row = .ok 10 := rfl
  have empty : measured [] [] nothing = .ok 0 := rfl
  refine ⟨reached, ⟨_, rfl, ?_⟩, empty, ⟨_, rfl, ?_⟩⟩
  · have answers := ((usedWalker_measures_arrays reached 3 row).2 _ rfl).2 10 filled []
    exact answers.1 (by decide)
  · have answers := ((usedWalker_measures_arrays reached 0xffffffff nothing).2 _ rfl).2 0 empty []
    exact (answers.2 rfl).2.mpr ⟨2, by decide⟩

end CompiledModule
