namespace CompiledModule

/-!
# Numbers as bytes

A module stores every number as a run of bytes with the least significant byte first.  Reading a
run is positional notation to base 256, and writing one is taking that many digits.  Both are
stated for runs of any length, so the two-byte and four-byte elements of a data block are covered
by the same pair of functions as the words of a header.

A byte order says from which end a run is read.  Going from one order to the other reverses the
run, and converting a data block reverses each element of it.
-/

/-- The number a run of bytes spells when its least significant byte comes first. -/
def littleValue : List UInt8 → Nat
  | [] => 0
  | byte :: rest => byte.toNat + 256 * littleValue rest

/-- The lowest `count` base-256 digits of `value`, least significant first. -/
def littleDigits : (count value : Nat) → List UInt8
  | 0, _ => []
  | count + 1, value => UInt8.ofNat value :: littleDigits count (value / 256)

theorem length_littleDigits (count value : Nat) :
    (littleDigits count value).length = count := by
  induction count generalizing value with
  | zero => rfl
  | succ count ih => simp [littleDigits, ih]

/-! ## Byte orders -/

/-- Which byte of a run is the least significant one: its first, or its last. -/
inductive ByteOrder where
  | little
  | big
  deriving DecidableEq, Repr

namespace ByteOrder

/-- The order of every number in a module file. -/
def file : ByteOrder := little

/-- The order a host has unless an option says otherwise. -/
def native : ByteOrder := little

/-- A run in this order, turned so that its least significant byte comes first.  The turn is its
own inverse, so it serves reading and writing alike. -/
def arrange : ByteOrder → List UInt8 → List UInt8
  | little, bytes => bytes
  | big, bytes => bytes.reverse

def value (order : ByteOrder) (bytes : List UInt8) : Nat :=
  littleValue (order.arrange bytes)

def word (order : ByteOrder) (bytes : List UInt8) : UInt32 :=
  UInt32.ofNat (order.value bytes)

def wordBytes (order : ByteOrder) (word : UInt32) : List UInt8 :=
  order.arrange (littleDigits 4 word.toNat)

/-- Two orders differ exactly when data has to be converted between them. -/
def differs (left right : ByteOrder) : Bool :=
  left != right

theorem arrange_arrange (order : ByteOrder) (bytes : List UInt8) :
    order.arrange (order.arrange bytes) = bytes := by
  cases order <;> simp [arrange]

theorem length_arrange (order : ByteOrder) (bytes : List UInt8) :
    (order.arrange bytes).length = bytes.length := by
  cases order <;> simp [arrange]

theorem length_wordBytes (order : ByteOrder) (word : UInt32) :
    (order.wordBytes word).length = 4 := by
  rw [wordBytes, length_arrange, length_littleDigits]

end ByteOrder

/-! ## Converting runs of elements -/

/-- The first `count` elements of `width` bytes each, every one reversed, and then the bytes after
them as they are. -/
def reverseRun (width : Nat) : (count : Nat) → List UInt8 → List UInt8
  | 0, bytes => bytes
  | count + 1, bytes =>
    (bytes.take width).reverse ++ reverseRun width count (bytes.drop width)

/-- Every whole element of `width` bytes reversed.  Bytes at the end that do not fill an element
stay as they are, and so does everything when an element is a single byte or none. -/
def reverseElements (width : Nat) (bytes : List UInt8) : List UInt8 :=
  reverseRun width (bytes.length / width) bytes

end CompiledModule
