import CompiledModule.Section

namespace CompiledModule

/-!
# The string pool

The constant strings of a module are stored as one text with a zero byte behind each string, and a
table of the places where the strings start.  A string ends at the first zero byte behind its
start, or with the text.  Strings may share bytes.

A pool that is read from a module is refused when a string starts behind the text.  A start at the
very end is an empty string.
-/

/-- Where the strings start, and the text they are cut from. -/
structure StringPool where
  offsets : Array UInt32
  text : Array UInt8
  deriving DecidableEq, Repr

/-- The bytes of a text from `start` on, up to its first zero byte there and not more than `limit`
of them. -/
def cutString (text : Array UInt8) : (limit start : Nat) → List UInt8
  | 0, _ => []
  | limit + 1, start =>
    match text[start]? with
    | none => []
    | some byte => if byte != 0 then byte :: cutString text limit (start + 1) else []

theorem cutString_eq (text : Array UInt8) (limit start : Nat) (enough : text.size ≤ start + limit) :
    cutString text limit start = untilZero (text.toList.drop start) := by
  induction limit generalizing start with
  | zero =>
    have past : text.toList.length ≤ start := by rw [Array.length_toList]; omega
    rw [cutString, List.drop_eq_nil_of_le past, untilZero, List.takeWhile_nil]
  | succ limit ih =>
    rw [cutString]
    split
    · rename_i past
      have past : text.toList.length ≤ start := by
        rw [Array.length_toList]; exact Array.getElem?_eq_none_iff.mp past
      rw [List.drop_eq_nil_of_le past, untilZero, List.takeWhile_nil]
    · rename_i byte found
      obtain ⟨inside, rfl⟩ := Array.getElem?_eq_some_iff.mp found
      have split : text.toList.drop start = text[start] :: text.toList.drop (start + 1) :=
        List.drop_eq_getElem_cons inside
      rw [ih (start + 1) (by omega), split, untilZero, untilZero, List.takeWhile_cons]

namespace StringPool

def size (pool : StringPool) : Nat :=
  pool.offsets.size

/-- The bytes of a string without the zero byte behind them. -/
def get? (pool : StringPool) (index : Nat) : Option (List UInt8) :=
  match pool.offsets[index]? with
  | none => none
  | some start =>
    if start.toNat ≤ pool.text.size then
      some (cutString pool.text (pool.text.size - start.toNat) start.toNat)
    else none

def text? (pool : StringPool) (index : Nat) : Option String :=
  (pool.get? index).map Utf8.decode

/-- The first string that starts behind a text of the given length, with its index; the list
begins with number `index`. -/
def firstPast (textLength : Nat) : (index : Nat) → List UInt32 → Option (Nat × UInt32)
  | _, [] => none
  | index, start :: rest =>
    if textLength < start.toNat then some (index, start)
    else firstPast textLength (index + 1) rest

def read [Memory] (strings text : Section) : Load StringPool := do
  let offsets ← strings.words
  let text ← text.bytes
  match firstPast text.length 0 offsets with
  | some (index, start) =>
    throw (.malformed (← get).phase (.stringPastText index start text.length))
  | none => return { offsets := offsets.toArray, text := text.toArray }

end StringPool

end CompiledModule
