import CompiledModule.FirstIndex
import CompiledModule.Section

namespace CompiledModule

/-!
# Names and their codes

The code of a module refers to every name by a number.  The table of names is searched in both
directions: for the name of a code, and for the code of a name.  Codes and names may occur more
than once, and the first entry decides; entries behind it are kept but never found.
-/

structure IdEntry where
  code : UInt32
  name : String
  deriving DecidableEq, Repr

/-- The names of a module in the order of their table.  A code leads to the position of its entry,
and a name at once to its code. -/
structure IdTable where
  entries : Array IdEntry
  byCode : FirstIndex UInt32 Nat
  byName : FirstIndex String UInt32

namespace IdTable

def empty : IdTable :=
  ⟨#[], ∅, ∅⟩

def push (table : IdTable) (code : UInt32) (name : String) : IdTable where
  entries := table.entries.push ⟨code, name⟩
  byCode := table.byCode.add code table.entries.size
  byName := table.byName.add name code

def ofList (entries : List IdEntry) : IdTable :=
  entries.foldl (fun table entry => table.push entry.code entry.name) empty

/-- What a code is called when the table has no name for it. -/
def unknownName : String := "(?)"

def entryOf? (table : IdTable) (code : UInt32) : Option IdEntry :=
  table.byCode[code]?.bind (table.entries[·]?)

def nameFor (table : IdTable) (code : UInt32) : String :=
  (table.entryOf? code).elim unknownName IdEntry.name

def codeFor? (table : IdTable) (name : String) : Option UInt32 :=
  table.byName[name]?

/-! ## Stored tables -/

def nameSize : Nat := 64

open FieldParser in
/-- An entry as it is stored: the name's slot and the code. -/
def format : Record IdEntry where
  size := nameSize + 4
  parser := do
    let slot ← bytes nameSize
    let code ← word
    return ⟨code, nameOfSlot slot⟩
  fills :=
    (FieldParser.Consumes.bytes nameSize).bind fun _ =>
      FieldParser.Consumes.word.bind fun _ => FieldParser.Consumes.pure _

/-- The bytes of an entry.  The slot ends with a zero byte, so a long name is cut. -/
def encodeEntry (entry : IdEntry) : List UInt8 :=
  storedSlot (nameSize - 1) (Utf8.encode entry.name) ++ [0] ++ storedWord entry.code

def read [Memory] (part : Section) : Load IdTable := do
  return ofList (← part.records .idEntry format)

end IdTable

end CompiledModule
