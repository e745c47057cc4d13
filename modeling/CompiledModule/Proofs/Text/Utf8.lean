import CompiledModule.Text.Utf8

namespace CompiledModule

/-!
# Text in UTF-8 and back

Decoding the bytes of a text gives the text.  The decoder meets the bytes of the text's characters
one after another, and between two characters it has nothing begun, so it is enough to follow it
through the bytes of a single character.  A character of two bytes or more settles nothing until its
last byte: the first byte begins it, with bounds that its second byte keeps, and every other byte
adds six bits.

A text without the character zero has no zero byte, since every byte of a character of two bytes or
more is at least 128.  So a stored name ends where its text ends.
-/

namespace Utf8

/-! ## Bytes of a character -/

/-- The byte that adds the six lowest bits of `value` to a begun character. -/
def tail (value : Nat) : UInt8 :=
  UInt8.ofNat (value % 64 + 0x80)

theorem toNat_tail (value : Nat) : (tail value).toNat = value % 64 + 0x80 := by
  unfold tail
  rw [UInt8.toNat_ofNat']
  omega

theorem start_two : ∀ bits < 32, 2 ≤ bits →
    start (UInt8.ofNat (bits + 0xC0)) = ([], some ⟨1, 0x80, 0xBF, bits⟩) := by
  decide

theorem start_three : ∀ bits < 16,
    start (UInt8.ofNat (bits + 0xE0)) =
      ([], some ⟨2, if bits = 0 then 0xA0 else 0x80, if bits = 0xD then 0x9F else 0xBF, bits⟩) := by
  decide

theorem start_four : ∀ bits < 5,
    start (UInt8.ofNat (bits + 0xF0)) =
      ([], some ⟨3, if bits = 0 then 0x90 else 0x80, if bits = 4 then 0x8F else 0xBF, bits⟩) := by
  decide

theorem decodeFrom_begin {byte : UInt8} {begun : Begun} (begins : start byte = ([], some begun))
    (rest : List UInt8) : decodeFrom none (byte :: rest) = decodeFrom (some begun) rest := by
  rw [decodeFrom, step, begins]
  exact List.nil_append _

variable {low high : UInt8} {value : Nat}

theorem tail_inside (least : low.toNat ≤ value % 64 + 0x80) (most : value % 64 + 0x80 ≤ high.toNat) :
    low ≤ tail value ∧ tail value ≤ high := by
  rw [UInt8.le_iff_toNat_le, UInt8.le_iff_toNat_le, toNat_tail]
  exact ⟨least, most⟩

theorem decodeFrom_more (needed bits : Nat) (least : low.toNat ≤ value % 64 + 0x80)
    (most : value % 64 + 0x80 ≤ high.toNat) (rest : List UInt8) :
    decodeFrom (some ⟨needed + 2, low, high, bits⟩) (tail value :: rest) =
      decodeFrom (some ⟨needed + 1, 0x80, 0xBF, bits * 64 + value % 64⟩) rest := by
  have continues : continue? ⟨needed + 2, low, high, bits⟩ (tail value) =
      ([], some ⟨needed + 1, 0x80, 0xBF, bits * 64 + value % 64⟩) := by
    unfold continue?
    have many : ¬ (needed + 2 ≤ 1) := by omega
    rw [if_pos (tail_inside least most), toNat_tail, Nat.add_sub_cancel]
    exact if_neg many
  rw [decodeFrom, step, continues]
  exact List.nil_append _

theorem decodeFrom_last (bits : Nat) (least : low.toNat ≤ value % 64 + 0x80)
    (most : value % 64 + 0x80 ≤ high.toNat) (rest : List UInt8) :
    decodeFrom (some ⟨1, low, high, bits⟩) (tail value :: rest) =
      Char.ofNat (bits * 64 + value % 64) :: decodeFrom none rest := by
  have continues : continue? ⟨1, low, high, bits⟩ (tail value) =
      ([Char.ofNat (bits * 64 + value % 64)], none) := by
    unfold continue?
    rw [if_pos (tail_inside least most), toNat_tail, Nat.add_sub_cancel]
    exact if_pos (Nat.le_refl 1)
  rw [decodeFrom, step, continues]
  rfl

/-! ## One character -/

theorem decodeFrom_one (most : value ≤ 0x7F) (rest : List UInt8) :
    decodeFrom none (UInt8.ofNat value :: rest) = Char.ofNat value :: decodeFrom none rest := by
  have byte : (UInt8.ofNat value).toNat = value := by
    rw [UInt8.toNat_ofNat']
    omega
  have plain : start (UInt8.ofNat value) = ([Char.ofNat value], none) := by
    have below : UInt8.ofNat value < 0x80 := by
      rw [UInt8.lt_iff_toNat_lt, byte]
      exact Nat.lt_succ_of_le most
    unfold start
    rw [if_pos below, byte]
  rw [decodeFrom, step, plain]
  rfl

/-- The bounds of a byte behind the second one are those of every tail. -/
theorem tail_bounds (value : Nat) :
    (0x80 : UInt8).toNat ≤ value % 64 + 0x80 ∧ value % 64 + 0x80 ≤ (0xBF : UInt8).toNat := by
  simp only [UInt8.reduceToNat]
  omega

theorem decodeFrom_two (more : 0x7F < value) (most : value ≤ 0x7FF) (rest : List UInt8) :
    decodeFrom none (UInt8.ofNat (value / 64 % 32 + 0xC0) :: tail value :: rest) =
      Char.ofNat value :: decodeFrom none rest := by
  have begins := start_two (value / 64 % 32) (by omega) (by omega)
  rcases tail_bounds value with ⟨least, greatest⟩
  have whole : value / 64 % 32 * 64 + value % 64 = value := by omega
  rw [decodeFrom_begin begins, decodeFrom_last _ least greatest, whole]

/-- The bounds on the second byte leave out what is written with two bytes, and the surrogates. -/
theorem decodeFrom_three (more : 0x7FF < value) (most : value ≤ 0xFFFF)
    (valid : value < 0xD800 ∨ 0xDFFF < value) (rest : List UInt8) :
    decodeFrom none (UInt8.ofNat (value / 4096 % 16 + 0xE0) :: tail (value / 64) :: tail value ::
      rest) = Char.ofNat value :: decodeFrom none rest := by
  have begins := start_three (value / 4096 % 16) (by omega)
  have second : (if value / 4096 % 16 = 0 then 0xA0 else 0x80 : UInt8).toNat ≤
      value / 64 % 64 + 0x80 := by
    split <;> simp only [UInt8.reduceToNat] <;> omega
  have second' : value / 64 % 64 + 0x80 ≤
      (if value / 4096 % 16 = 0xD then 0x9F else 0xBF : UInt8).toNat := by
    split <;> simp only [UInt8.reduceToNat] <;> omega
  rcases tail_bounds value with ⟨least, greatest⟩
  have whole : (value / 4096 % 16 * 64 + value / 64 % 64) * 64 + value % 64 = value := by omega
  rw [decodeFrom_begin begins, decodeFrom_more 0 _ second second',
    decodeFrom_last _ least greatest, whole]

/-- The bounds on the second byte leave out what is written with three bytes, and what lies above
the last character. -/
theorem decodeFrom_four (more : 0xFFFF < value) (most : value < 0x110000) (rest : List UInt8) :
    decodeFrom none (UInt8.ofNat (value / 262144 % 8 + 0xF0) :: tail (value / 4096) ::
      tail (value / 64) :: tail value :: rest) = Char.ofNat value :: decodeFrom none rest := by
  have begins := start_four (value / 262144 % 8) (by omega)
  have second : (if value / 262144 % 8 = 0 then 0x90 else 0x80 : UInt8).toNat ≤
      value / 4096 % 64 + 0x80 := by
    split <;> simp only [UInt8.reduceToNat] <;> omega
  have second' : value / 4096 % 64 + 0x80 ≤
      (if value / 262144 % 8 = 4 then 0x8F else 0xBF : UInt8).toNat := by
    split <;> simp only [UInt8.reduceToNat] <;> omega
  rcases tail_bounds (value / 64) with ⟨third, third'⟩
  rcases tail_bounds value with ⟨least, greatest⟩
  have whole : ((value / 262144 % 8 * 64 + value / 4096 % 64) * 64 + value / 64 % 64) * 64 +
      value % 64 = value := by omega
  rw [decodeFrom_begin begins, decodeFrom_more 1 _ second second', decodeFrom_more 0 _ third third',
    decodeFrom_last _ least greatest, whole]

/-- The cases are the lengths of a character. -/
theorem decodeFrom_encodeChar (c : Char) (rest : List UInt8) :
    decodeFrom none (String.utf8EncodeChar c ++ rest) = c :: decodeFrom none rest := by
  have valid : c.toNat < 0xD800 ∨ (0xDFFF < c.toNat ∧ c.toNat < 0x110000) := c.valid
  have same : Char.ofNat c.toNat = c := Char.ofNat_toNat c
  unfold String.utf8EncodeChar
  change decodeFrom none ((if c.toNat ≤ 0x7f then _ else if c.toNat ≤ 0x7ff then _ else
    if c.toNat ≤ 0xffff then _ else _ : List UInt8) ++ rest) = _
  by_cases one : c.toNat ≤ 0x7F
  · have read := decodeFrom_one one rest
    rw [same] at read
    rw [if_pos one]
    exact read
  by_cases two : c.toNat ≤ 0x7FF
  · have read := decodeFrom_two (Nat.lt_of_not_le one) two rest
    rw [same] at read
    rw [if_neg one, if_pos two]
    exact read
  by_cases three : c.toNat ≤ 0xFFFF
  · have read := decodeFrom_three (Nat.lt_of_not_le two) three (valid.imp_right And.left) rest
    rw [same] at read
    rw [if_neg one, if_neg two, if_pos three]
    exact read
  · have last : c.toNat < 0x110000 := by omega
    have read := decodeFrom_four (Nat.lt_of_not_le three) last rest
    rw [same] at read
    rw [if_neg one, if_neg two, if_neg three]
    exact read

/-! ## Texts -/

theorem decode_encode (text : String) : decode (encode text) = text := by
  have characters : ∀ chars : List Char,
      decodeFrom none (chars.flatMap String.utf8EncodeChar) = chars := by
    intro chars
    induction chars with
    | nil => rfl
    | cons c rest ih => rw [List.flatMap_cons, decodeFrom_encodeChar, ih]
  unfold decode encode
  rw [characters, String.ofList_toList]

theorem zero_notMem_encodeChar {c : Char} (notZero : c ≠ Char.ofNat 0) :
    (0 : UInt8) ∉ String.utf8EncodeChar c := by
  have positive : 0 < c.toNat := by
    apply Nat.pos_of_ne_zero
    intro zero
    apply notZero
    rw [← zero, Char.ofNat_toNat]
  have high : ∀ value least, 0 < least → least + value < 256 →
      (0 : UInt8) ≠ UInt8.ofNat (value + least) := by
    intro value least some' small zero
    have digits := congrArg UInt8.toNat zero
    rw [UInt8.toNat_ofNat'] at digits
    simp only [UInt8.reduceToNat] at digits
    omega
  unfold String.utf8EncodeChar
  change (0 : UInt8) ∉ (if c.toNat ≤ 0x7f then _ else if c.toNat ≤ 0x7ff then _ else
    if c.toNat ≤ 0xffff then _ else _ : List UInt8)
  split
  · have small := high 0 c.toNat positive (by omega)
    rw [Nat.zero_add] at small
    exact fun member => small (List.mem_singleton.mp member)
  · split
    · simp only [List.mem_cons, not_or, List.not_mem_nil, not_false_eq_true, and_true]
      exact ⟨high _ _ (by omega) (by omega), high _ _ (by omega) (by omega)⟩
    · split
      · simp only [List.mem_cons, not_or, List.not_mem_nil, not_false_eq_true, and_true]
        exact ⟨high _ _ (by omega) (by omega), high _ _ (by omega) (by omega),
          high _ _ (by omega) (by omega)⟩
      · simp only [List.mem_cons, not_or, List.not_mem_nil, not_false_eq_true, and_true]
        exact ⟨high _ _ (by omega) (by omega), high _ _ (by omega) (by omega),
          high _ _ (by omega) (by omega), high _ _ (by omega) (by omega)⟩

def ZeroFree (text : String) : Prop :=
  Char.ofNat 0 ∉ text.toList

instance (text : String) : Decidable (ZeroFree text) :=
  inferInstanceAs (Decidable (Char.ofNat 0 ∉ text.toList))

theorem ZeroFree.encode {text : String} (zeroFree : ZeroFree text) :
    (0 : UInt8) ∉ encode text := by
  unfold Utf8.encode
  rw [List.mem_flatMap]
  rintro ⟨c, member, zero⟩
  have notZero : c ≠ Char.ofNat 0 := by
    rintro rfl
    exact zeroFree member
  exact zero_notMem_encodeChar notZero zero

end Utf8

/-! ## Names -/

theorem untilZero_of_zeroFree {bytes : List UInt8} (zeroFree : (0 : UInt8) ∉ bytes) :
    untilZero bytes = bytes := by
  have goesOn : ∀ byte ∈ bytes, (byte != 0) = true := by
    intro byte member
    apply bne_iff_ne.mpr
    intro zero
    exact zeroFree (zero ▸ member)
  rw [← List.append_nil bytes, untilZero, List.takeWhile_append_of_pos goesOn, List.takeWhile_nil]

/-- What stands behind a zero byte does not belong to a name. -/
theorem untilZero_append_zero (bytes rest : List UInt8) :
    untilZero (bytes ++ 0 :: rest) = untilZero bytes := by
  have stops : (0 :: rest).takeWhile (fun byte : UInt8 => byte != 0) = [] := rfl
  unfold untilZero
  rw [List.takeWhile_append, stops, List.append_nil]
  split
  · rename_i whole
    exact ((List.takeWhile_prefix _).eq_of_length whole).symm
  · rfl

theorem untilZero_append {bytes : List UInt8} (zeroFree : (0 : UInt8) ∉ bytes)
    (rest : List UInt8) : untilZero (bytes ++ 0 :: rest) = bytes := by
  rw [untilZero_append_zero, untilZero_of_zeroFree zeroFree]

theorem nameOfSlot_append {text : String} (zeroFree : Utf8.ZeroFree text) (rest : List UInt8) :
    nameOfSlot (Utf8.encode text ++ 0 :: rest) = text := by
  unfold nameOfSlot
  rw [untilZero_append zeroFree.encode, Utf8.decode_encode]

/-- The front of these bytes that ends before their first zero byte, or with them. -/
structure LongestZeroFree (bytes front : List UInt8) : Prop where
  begins : front <+: bytes
  zeroFree : 0 ∉ front
  longest : ∀ other, other <+: bytes → 0 ∉ other → other.length ≤ front.length

theorem longestZeroFree_untilZero (bytes : List UInt8) :
    LongestZeroFree bytes (untilZero bytes) := by
  constructor
  · exact List.takeWhile_prefix _
  · intro member
    have passes := List.all_eq_true.mp List.all_takeWhile 0 member
    cases passes
  · intro other begins zeroFree
    rcases begins with ⟨rest, split⟩
    have all : ∀ byte ∈ other, (byte != 0) = true := by
      intro byte member
      exact bne_iff_ne.mpr fun same => zeroFree (same ▸ member)
    rw [untilZero, ← split, List.takeWhile_append_of_pos all, List.length_append]
    exact Nat.le_add_right _ _

theorem LongestZeroFree.eq_untilZero {bytes front : List UInt8}
    (longest : LongestZeroFree bytes front) : front = untilZero bytes := by
  have cut := longestZeroFree_untilZero bytes
  apply List.IsPrefix.eq_of_length_le
  · exact List.prefix_of_prefix_length_le longest.begins cut.begins
      (cut.longest front longest.begins longest.zeroFree)
  · exact longest.longest _ cut.begins cut.zeroFree

/-- A slot spells the text of its bytes before the first zero byte. -/
def SlotSpells (slot : List UInt8) (name : String) : Prop :=
  ∃ front, LongestZeroFree slot front ∧ name = Utf8.decode front

theorem slotSpells_iff {slot : List UInt8} {name : String} :
    SlotSpells slot name ↔ name = nameOfSlot slot := by
  constructor
  · rintro ⟨front, longest, rfl⟩
    rw [longest.eq_untilZero]
    rfl
  · intro same
    exact ⟨untilZero slot, longestZeroFree_untilZero slot, same⟩

end CompiledModule
