import CompiledModule.Section

namespace CompiledModule

/-!
# Files inside a module

A module may carry files.  Their table says for each how long its name is, how large its contents
are and where they stand, and then gives the name.  Loading a module reads the table only; the
contents stay in the stream, so their place is kept as a place in the stream.
-/

structure EmbeddedFile where
  name : String
  /-- Where the contents begin, counted from the start of the stream. -/
  offset : Nat
  size : UInt32
  deriving DecidableEq, Repr

namespace EmbeddedFile

open FieldParser in
/-- The fixed part of a table entry: the size of the name slot, and the section of the contents. -/
def format : Record (UInt32 × Section) where
  size := 12
  parser := do
    let nameSize ← word
    let size ← word
    let offset ← word
    return (nameSize, ⟨offset, size⟩)
  fills :=
    FieldParser.Consumes.word.bind fun _ =>
      FieldParser.Consumes.word.bind fun _ =>
        FieldParser.Consumes.word.bind fun _ => FieldParser.Consumes.pure _

def encodeEntry (name : String) (contents : Section) (nameSize : UInt32) : List UInt8 :=
  storedWords [nameSize, contents.count, contents.offset] ++ Utf8.encode name ++ [0]

variable [Memory]

def readEntry : Load EmbeddedFile := do
  let (nameSize, contents) ← Load.record format
  let name ← Load.name nameSize.toNat
  return { name, offset := (← get).base + contents.offset.toNat, size := contents.count }

def readTable (part : Section) : Load (List EmbeddedFile) :=
  part.table .file format.size readEntry

end EmbeddedFile

end CompiledModule
