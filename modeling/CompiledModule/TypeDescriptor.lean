import CompiledModule.Record
import CompiledModule.Size

namespace CompiledModule

/-!
# Types of variables

A type is a chain of eight links.  An array link multiplies what follows by its count; the first
link that is no array says what is multiplied: a scalar of one, two or four bytes, or a struct,
whose members are the variables of one of the module's variable spaces.  The links behind it mean
nothing, whatever they hold.

Links are kept as they are stored.  A tag that stands for no type is not an error until somebody
wants to know what the chain describes, and that question has one answer: so many scalars of one
width, or so many structs of one space.  `extent` is that answer.
-/

/-! ## Base types -/

/-- The types whose values are single numbers. -/
inductive Scalar where
  | int
  | dword
  | short
  | word
  | sbyte
  | byte
  | char
  | float
  | string
  | pointer
  deriving DecidableEq, Repr

namespace Scalar

/-- How many bytes a value takes.  A string is stored as its index in the string pool. -/
def width : Scalar → Nat
  | int => 4
  | dword => 4
  | short => 2
  | word => 2
  | sbyte => 1
  | byte => 1
  | char => 1
  | float => 4
  | string => 4
  | pointer => 4

end Scalar

/-- What one link of a chain says. -/
inductive BaseType where
  | scalar (kind : Scalar)
  | array
  | struct
  deriving DecidableEq, Repr

namespace BaseType

def tag : BaseType → UInt8
  | scalar .int => 1
  | scalar .dword => 2
  | scalar .short => 3
  | scalar .word => 4
  | scalar .sbyte => 5
  | scalar .byte => 6
  | scalar .char => 8
  | scalar .float => 9
  | scalar .string => 16
  | array => 17
  | struct => 18
  | scalar .pointer => 19

def all : List BaseType :=
  [scalar .int, scalar .dword, scalar .short, scalar .word, scalar .sbyte, scalar .byte,
    scalar .char, scalar .float, scalar .string, array, struct, scalar .pointer]

/-- The base type that a tag stands for, if it stands for one. -/
def ofTag? (tag : UInt8) : Option BaseType :=
  all.find? (·.tag == tag)

/-- How many bytes one value takes; arrays and structs have no width of their own. -/
def width? : BaseType → Option Nat
  | scalar kind => some kind.width
  | array => none
  | struct => none

theorem ofTag?_tag (base : BaseType) : ofTag? base.tag = some base := by
  cases base with
  | scalar kind => cases kind <;> rfl
  | array => rfl
  | struct => rfl

theorem tag_of_ofTag? {tag : UInt8} {base : BaseType} (found : ofTag? tag = some base) :
    base.tag = tag := by
  have := List.find?_some found
  exact eq_of_beq this

end BaseType

/-! ## Chains of links -/

/-- A link as it is stored: a tag, and the count that matters when the tag is an array's. -/
structure Link where
  tag : UInt8
  count : UInt32
  deriving DecidableEq, Repr, Inhabited

structure TypeDescriptor where
  links : Vector Link 8
  /-- The variable space of the members, when the chain ends in a struct. -/
  members : UInt32
  deriving DecidableEq, Repr

/-- What a type consists of: a run of equal scalars, or a run of structs of one space. -/
inductive Extent where
  | scalars (width count : Nat)
  | structs (space : UInt32) (count : Nat)
  deriving DecidableEq, Repr

namespace TypeDescriptor

/-- A chain that ends with its first link. -/
def single (base : BaseType) (members : UInt32) : TypeDescriptor where
  links := #v[⟨base.tag, 0⟩, ⟨0, 0⟩, ⟨0, 0⟩, ⟨0, 0⟩, ⟨0, 0⟩, ⟨0, 0⟩, ⟨0, 0⟩, ⟨0, 0⟩]
  members

def ofBase (base : BaseType) : TypeDescriptor :=
  single base 0

def ofSpace (space : UInt32) : TypeDescriptor :=
  single .struct space

/-- The array of `count` elements, unless the element's chain has no link to spare. -/
def arrayOf? (count : UInt32) (element : TypeDescriptor) : Option TypeDescriptor :=
  if element.links.back.tag = 0 then
    let outer : Vector Link 1 := #v[⟨BaseType.array.tag, count⟩]
    some { element with links := outer ++ element.links.pop }
  else none

def outermost? (type : TypeDescriptor) : Option BaseType :=
  BaseType.ofTag? type.links.head.tag

/-- Whether the first link that is no array is a struct. -/
def isStruct (type : TypeDescriptor) : Bool :=
  match type.links.toList.find? (·.tag != BaseType.array.tag) with
  | some link => link.tag == BaseType.struct.tag
  | none => false

/-- What the links from number `index` on describe, when the arrays before them have `count`
elements altogether. -/
def extentFrom (members : UInt32) : (index count : Nat) → List Link → Except LayoutError Extent
  | _, _, [] => .error .unterminated
  | index, count, link :: rest =>
    match BaseType.ofTag? link.tag with
    | none => .error (.unknownTag link.tag index)
    | some .array => do
      let total ← sizeProduct count link.count.toNat
      extentFrom members (index + 1) total rest
    | some .struct => .ok (.structs members count)
    | some (.scalar kind) => .ok (.scalars kind.width count)

/-- What a type consists of.  The links are read from the outside in, so of two faults in a chain
the outer one is reported. -/
def extent (type : TypeDescriptor) : Except LayoutError Extent :=
  extentFrom type.members 0 1 type.links.toList

/-! ## Stored types -/

/-- The bytes of a type: all its tags, all its counts, and the space of its members. -/
def encode (type : TypeDescriptor) : List UInt8 :=
  (type.links.map Link.tag).toList ++ storedWords (type.links.map Link.count).toList ++
    storedWord type.members

open FieldParser in
def fields : FieldParser TypeDescriptor := do
  let tags ← vector byte 8
  let counts ← vector word 8
  let members ← word
  return { links := tags.zipWith Link.mk counts, members }

theorem consumes_fields : fields.Consumes 44 :=
  (FieldParser.Consumes.vector .byte 8).bind fun _ =>
    (FieldParser.Consumes.vector .word 8).bind fun _ =>
      FieldParser.Consumes.word.bind fun _ => FieldParser.Consumes.pure _

end TypeDescriptor

end CompiledModule
