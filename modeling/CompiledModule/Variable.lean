import CompiledModule.Section
import CompiledModule.TypeDescriptor

namespace CompiledModule

/-!
# Variables and variable spaces

A variable record says which bytes of a block belong to a variable and what type they have.  The
same record describes globals, locals, the private and public variables of a procedure, and the
members of a struct; only the block that its offset counts from differs.

A variable space is a list of members.  The spaces of a module are stored as a directory, which
gives the length and the place of each member table, and the tables may lie anywhere.
-/

structure Variable where
  type : TypeDescriptor
  id : UInt32
  /-- The variable's first byte, counted from the start of its block or of its struct. -/
  offset : UInt32
  space : UInt32
  deriving DecidableEq, Repr

abbrev VariableSpace := List Variable

namespace Variable

def encode (record : Variable) : List UInt8 :=
  record.type.encode ++ storedWords [record.id, record.offset, record.space]

open FieldParser in
def fields : FieldParser Variable := do
  let type ← TypeDescriptor.fields
  let id ← word
  let offset ← word
  let space ← word
  return { type, id, offset, space }

/-- A variable record has 56 bytes. -/
def format : Record Variable where
  size := 56
  parser := fields
  fills :=
    TypeDescriptor.consumes_fields.bind fun _ =>
      FieldParser.Consumes.word.bind fun _ =>
        FieldParser.Consumes.word.bind fun _ =>
          FieldParser.Consumes.word.bind fun _ => FieldParser.Consumes.pure _

def readTable [Memory] (part : Section) : Load (List Variable) :=
  part.records .var format

end Variable

namespace VariableSpace

open FieldParser in
/-- An entry of the directory: how many members a space has, and where they stand. -/
def entryFormat : Record Section where
  size := 8
  parser := do
    let count ← word
    let offset ← word
    return ⟨offset, count⟩
  fills :=
    FieldParser.Consumes.word.bind fun _ =>
      FieldParser.Consumes.word.bind fun _ => FieldParser.Consumes.pure _

def encodeEntry (members : Section) : List UInt8 :=
  storedWords [members.count, members.offset]

/-- Reads the directory, and then every member table in the directory's order. -/
def readAll [Memory] (directory : Section) : Load (List VariableSpace) := do
  let tables ← directory.records .spacePlace entryFormat
  Load.allocate .space tables.length
  tables.mapM Variable.readTable

end VariableSpace

end CompiledModule
