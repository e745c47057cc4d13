import CompiledModule.ByteOrder
import Mathlib.Algebra.Group.Nat.Defs

namespace CompiledModule

/-!
# Numbers as bytes, both ways

Writing a number as bytes and reading it again gives the number, up to what does not fit in so many
bytes; reading bytes and writing as many again gives the bytes.  For words this makes the two
functions of a byte order inverse to each other.
-/

theorem littleValue_littleDigits (count value : Nat) :
    littleValue (littleDigits count value) = value % 256 ^ count := by
  induction count generalizing value with
  | zero => simp [littleDigits, littleValue, Nat.mod_one]
  | succ count ih =>
    have digit : (UInt8.ofNat value).toNat = value % 256 := by simp
    rw [littleDigits, littleValue, ih, digit, Nat.pow_succ', Nat.mod_mul]

theorem littleValue_lt (bytes : List UInt8) : littleValue bytes < 256 ^ bytes.length := by
  induction bytes with
  | nil => simp [littleValue]
  | cons byte rest ih =>
    have := byte.toNat_lt
    simp only [littleValue, List.length_cons, Nat.pow_succ]
    omega

theorem littleDigits_littleValue (bytes : List UInt8) :
    littleDigits bytes.length (littleValue bytes) = bytes := by
  induction bytes with
  | nil => rfl
  | cons byte rest ih =>
    have small := byte.toNat_lt
    have low : UInt8.ofNat (byte.toNat + 256 * littleValue rest) = byte := by
      apply UInt8.toNat_inj.mp
      simp only [UInt8.toNat_ofNat']
      omega
    have high : (byte.toNat + 256 * littleValue rest) / 256 = littleValue rest := by omega
    rw [List.length_cons, littleValue, littleDigits, low, high, ih]

namespace ByteOrder

theorem word_wordBytes (order : ByteOrder) (word : UInt32) :
    order.word (order.wordBytes word) = word := by
  have small : word.toNat % 256 ^ 4 = word.toNat := Nat.mod_eq_of_lt word.toNat_lt
  rw [ByteOrder.word, value, wordBytes, arrange_arrange, littleValue_littleDigits, small,
    UInt32.ofNat_toNat]

theorem wordBytes_word (order : ByteOrder) (bytes : List UInt8) (four : bytes.length = 4) :
    order.wordBytes (order.word bytes) = bytes := by
  have count : (order.arrange bytes).length = 4 := by rw [length_arrange, four]
  have small : littleValue (order.arrange bytes) < 2 ^ 32 := by
    have := littleValue_lt (order.arrange bytes)
    rw [count] at this
    exact this
  rw [wordBytes, ByteOrder.word, value, UInt32.toNat_ofNat_of_lt' small, ← count,
    littleDigits_littleValue, arrange_arrange]

end ByteOrder

/-- The bytes are the four digits of a word to base 256, the lowest one first. -/
def SpellsWord (bytes : List UInt8) (word : UInt32) : Prop :=
  ∃ first second third fourth : UInt8, bytes = [first, second, third, fourth] ∧
    word.toNat =
      first.toNat + 256 * second.toNat + 65536 * third.toNat + 16777216 * fourth.toNat

theorem spellsWord_iff {bytes : List UInt8} {word : UInt32} (four : bytes.length = 4) :
    SpellsWord bytes word ↔ word = ByteOrder.file.word bytes := by
  have digits (first second third fourth : UInt8) :
      (ByteOrder.file.word [first, second, third, fourth]).toNat =
        first.toNat + 256 * second.toNat + 65536 * third.toNat + 16777216 * fourth.toNat := by
    have value : littleValue [first, second, third, fourth] =
        first.toNat + 256 * second.toNat + 65536 * third.toNat + 16777216 * fourth.toNat := by
      simp only [littleValue]
      omega
    have below : littleValue [first, second, third, fourth] < UInt32.size := by
      have one := first.toNat_lt
      have two := second.toNat_lt
      have three := third.toNat_lt
      have four := fourth.toNat_lt
      rw [value, UInt32.size]
      omega
    change (UInt32.ofNat (littleValue [first, second, third, fourth])).toNat = _
    rw [UInt32.toNat_ofNat_of_lt' below, value]
  constructor
  · rintro ⟨first, second, third, fourth, rfl, spelt⟩
    rw [← UInt32.toNat_inj, spelt, digits]
  · rintro rfl
    match bytes, four with
    | [first, second, third, fourth], _ =>
      exact ⟨first, second, third, fourth, rfl, digits first second third fourth⟩

end CompiledModule
