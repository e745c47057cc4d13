import CompiledModule.Error

namespace CompiledModule

/-!
# Sizes

Offsets, lengths and sizes are natural numbers that must fit in 64 bits.  Sums and products are
taken exactly and are refused when they reach the limit, so no size is ever wrong; where a size is
only compared with something smaller, it may stand at the limit instead.
-/

/-- Every offset, length and size lies below this number. -/
def sizeLimit : Nat := 0x10000000000000000

/-- A number, or the largest size when the number is none. -/
def saturated (value : Nat) : Nat :=
  min value (sizeLimit - 1)

theorem saturated_of_lt {value : Nat} (small : value < sizeLimit) : saturated value = value :=
  Nat.min_eq_left (Nat.le_sub_one_of_lt small)

def sizeSum (left right : Nat) : Except LayoutError Nat :=
  if left + right < sizeLimit then .ok (left + right) else .error .overflow

def sizeProduct (left right : Nat) : Except LayoutError Nat :=
  if left * right < sizeLimit then .ok (left * right) else .error .overflow

theorem sizeSum_eq_ok {left right total : Nat} :
    sizeSum left right = .ok total ↔ left + right = total ∧ total < sizeLimit := by
  unfold sizeSum
  split <;> rename_i fits <;> simp only [Except.ok.injEq, reduceCtorEq, false_iff]
  · exact ⟨fun same => ⟨same, same ▸ fits⟩, fun both => both.1⟩
  · rintro ⟨rfl, below⟩
    exact fits below

theorem sizeSum_eq_error {left right : Nat} {error : LayoutError} :
    sizeSum left right = .error error ↔ sizeLimit ≤ left + right ∧ error = .overflow := by
  unfold sizeSum
  split <;> rename_i fits <;> simp only [Except.error.injEq, reduceCtorEq, false_iff]
  · exact fun both => Nat.not_lt.mpr both.1 fits
  · exact ⟨fun same => ⟨Nat.le_of_not_lt fits, same.symm⟩, fun both => both.2.symm⟩

theorem sizeProduct_eq_ok {left right total : Nat} :
    sizeProduct left right = .ok total ↔ left * right = total ∧ total < sizeLimit := by
  unfold sizeProduct
  split <;> rename_i fits <;> simp only [Except.ok.injEq, reduceCtorEq, false_iff]
  · exact ⟨fun same => ⟨same, same ▸ fits⟩, fun both => both.1⟩
  · rintro ⟨rfl, below⟩
    exact fits below

theorem sizeProduct_eq_error {left right : Nat} {error : LayoutError} :
    sizeProduct left right = .error error ↔ sizeLimit ≤ left * right ∧ error = .overflow := by
  unfold sizeProduct
  split <;> rename_i fits <;> simp only [Except.error.injEq, reduceCtorEq, false_iff]
  · exact fun both => Nat.not_lt.mpr both.1 fits
  · exact ⟨fun same => ⟨Nat.le_of_not_lt fits, same.symm⟩, fun both => both.2.symm⟩

end CompiledModule
