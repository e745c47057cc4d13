import CompiledModule.Proofs.Lookup.FirstPosition
import CompiledModule.Proofs.Safety.Reading
import CompiledModule.StringPool

namespace CompiledModule

/-!
# Indexes and their lists

What an index answers for a key is the position of an entry of its list, so looking up the entry
behind a position never fails.  The strings of a pool are cut out of its text: from a start that was
compared with the text when the pool was read, to a zero byte or to the end.
-/

/-! ## First positions -/

namespace FirstIndex

variable {κ : Type} [Ord κ]

/-- Every position in the index is smaller than the bound. -/
def Below (index : FirstIndex κ Nat) (bound : Nat) : Prop :=
  ∀ (key : κ) (position : Nat), index[key]? = some position → position < bound

theorem below_ofKeys [Std.TransOrd κ] [Std.LawfulEqOrd κ] [BEq κ] [LawfulBEq κ] (keys : List κ) :
    (ofKeys keys).Below keys.length := by
  intro key position found
  rw [getElem?_ofKeys, List.findIdx?_eq_some_iff_getElem] at found
  rcases found with ⟨inside, _⟩
  exact inside

end FirstIndex

/-! ## Names -/

/-- The codes of the table lead into it. -/
def IdTable.InRange (table : IdTable) : Prop :=
  table.byCode.Below table.entries.size

theorem IdTable.inRange_ofList (entries : List IdEntry) : (ofList entries).InRange := by
  rw [ofList_eq]
  have below := FirstIndex.below_ofKeys (entries.map IdEntry.code)
  rwa [List.length_map] at below

/-- The name of a code.  The entry behind a position is there, or there is no name at all. -/
def Guarded.nameFor (table : IdTable) (code : UInt32) : Except (Halt ε) String :=
  match table.byCode[code]? with
  | none => return IdTable.unknownName
  | some position => do
    let entry ← element table.entries position
    return entry.name

theorem Guarded.nameFor_eq {table : IdTable} (inRange : table.InRange) (code : UInt32) :
    (nameFor table code : Except (Halt ε) String) = .ok (table.nameFor code) := by
  unfold nameFor IdTable.nameFor IdTable.entryOf?
  cases found : table.byCode[code]? with
  | none => rfl
  | some position =>
    have inside := inRange code position found
    have entry : table.entries[position]? = some table.entries[position] :=
      Array.getElem?_eq_getElem inside
    simp only [element_eq entry, Option.bind_some, entry]
    rfl

/-! ## Strings -/

/-- Every string starts inside the text or right behind it. -/
def StringPool.InRange (pool : StringPool) : Prop :=
  ∀ start ∈ pool.offsets.toList, start.toNat ≤ pool.text.size

theorem StringPool.inside_of_firstPast {textLength index : Nat} {starts : List UInt32}
    (nothing : firstPast textLength index starts = none) :
    ∀ start ∈ starts, start.toNat ≤ textLength := by
  induction starts generalizing index with
  | nil => exact fun _ impossible => absurd impossible List.not_mem_nil
  | cons first rest ih =>
    rw [firstPast] at nothing
    split at nothing
    · cases nothing
    · intro start member
      rcases List.mem_cons.mp member with rfl | later
      · omega
      · exact ih nothing start later

/-- A string of a pool, cut out of the text up to the first zero byte. -/
def Guarded.string (pool : StringPool) (index : Nat) : Except (Halt ε) (List UInt8) := do
  let start ← element pool.offsets index
  let tail ← slice pool.text.toList start.toNat pool.text.size
  slice tail 0 (tail.findIdx (· == 0))

theorem Guarded.string_eq {pool : StringPool} (inRange : pool.InRange) {index : Nat}
    (inside : index < pool.size) :
    ∃ string, (Guarded.string pool index : Except (Halt ε) (List UInt8)) = .ok string ∧
      pool.get? index = some string := by
  have start : pool.offsets[index]? = some pool.offsets[index] :=
    Array.getElem?_eq_getElem inside
  have begins := inRange pool.offsets[index] (Array.getElem_mem_toList inside)
  have tail : (pool.text.toList.take pool.text.size).drop pool.offsets[index].toNat =
      pool.text.toList.drop pool.offsets[index].toNat := by
    rw [List.take_of_length_le (Nat.le_of_eq Array.length_toList)]
  have cut : pool.offsets[index].toNat ≤ pool.text.size ∧
      pool.text.size ≤ pool.text.toList.length := ⟨begins, Nat.le_of_eq Array.length_toList.symm⟩
  refine ⟨untilZero (pool.text.toList.drop pool.offsets[index].toNat), ?_, ?_⟩
  · rw [string, element_eq start]
    change (slice pool.text.toList pool.offsets[index].toNat pool.text.size >>= _) = _
    rw [slice_eq cut, tail]
    change slice _ 0 _ = _
    rw [slice_eq ⟨Nat.zero_le _, List.findIdx_le_length⟩, List.drop_zero, ← untilZero_eq_take]
  · rw [StringPool.get?, start]
    simp only [if_pos begins]
    rw [cutString_eq _ _ _ (by omega)]

end CompiledModule
