import CompiledModule.IdTable
import CompiledModule.Layout.Block
import CompiledModule.Text.Numeral

namespace CompiledModule

/-!
# Procedures

A table of shapes says for each procedure where its parts are: two blocks of data, which an
instance of the procedure starts with, the variables and strings that belong to each of them, and
the code.  The whole table is read before any part.

A procedure without code is abstract: it is declared, and something else has to supply it.  The
offsets of its exit and error handlers count from its code, so an abstract procedure has none, and
a handler at offset 0 is no handler.
-/

/-! ## Flags -/

/-- The flags of a procedure.  Bits without a name are kept. -/
structure ProcedureFlags where
  bits : UInt32
  deriving DecidableEq, Repr

namespace ProcedureFlags

/-- The flags that have a name, by ascending bit. -/
def named : List (String × UInt32) :=
  [("FRAME", 1), ("LOCALS", 2), ("FUNCTION", 4), ("PUBLICS", 8)]

def contains (flags : ProcedureFlags) (flag : UInt32) : Bool :=
  flags.bits &&& flag == flag

def names (flags : ProcedureFlags) : List String :=
  (named.filter fun flag => flags.contains flag.2).map (·.1)

def unnamed (flags : ProcedureFlags) : UInt32 :=
  flags.bits &&& ~~~(named.foldl (fun bits flag => bits ||| flag.2) 0)

/-- The names of the flags and then the bits without one. -/
def dump (flags : ProcedureFlags) : String :=
  let rest :=
    if flags.unnamed = 0 then [] else ["0x" ++ hexDigits flags.unnamed.toNat]
  let shown := if flags.bits = 0 then ["0x0"] else flags.names ++ rest
  "ProcFlags(" ++ " | ".intercalate shown ++ ")"

end ProcedureFlags

/-! ## Shapes -/

structure ProcedureShape where
  id : UInt32
  flags : UInt32
  params : UInt32
  privateVars : Section
  privateStrings : Section
  publicVars : Section
  publicStrings : Section
  sentences : Section
  privateData : Section
  publicData : Section
  /-- The code, counted in bytes. -/
  code : Section
  exitAt : UInt32
  errorAt : UInt32
  deriving DecidableEq, Repr

namespace ProcedureShape

def encode (shape : ProcedureShape) : List UInt8 :=
  storedWords [
    shape.id,
    shape.flags,
    shape.params,
    shape.privateVars.count,
    shape.privateStrings.count,
    shape.publicVars.count,
    shape.publicStrings.count,
    shape.sentences.count,
    shape.privateData.count,
    shape.publicData.count,
    shape.code.count,
    shape.exitAt,
    shape.errorAt,
    shape.sentences.offset,
    shape.privateVars.offset,
    shape.privateStrings.offset,
    shape.privateData.offset,
    shape.publicVars.offset,
    shape.publicStrings.offset,
    shape.publicData.offset,
    shape.code.offset]

open FieldParser in
def fields : FieldParser ProcedureShape := do
  let id ← word
  let flags ← word
  let params ← word
  let privateVarCount ← word
  let privateStringCount ← word
  let publicVarCount ← word
  let publicStringCount ← word
  let sentenceCount ← word
  let privateSize ← word
  let publicSize ← word
  let codeSize ← word
  let exitAt ← word
  let errorAt ← word
  let sentencesAt ← word
  let privateVarsAt ← word
  let privateStringsAt ← word
  let privateDataAt ← word
  let publicVarsAt ← word
  let publicStringsAt ← word
  let publicDataAt ← word
  let codeAt ← word
  return {
    id, flags, params, exitAt, errorAt
    privateVars := ⟨privateVarsAt, privateVarCount⟩
    privateStrings := ⟨privateStringsAt, privateStringCount⟩
    publicVars := ⟨publicVarsAt, publicVarCount⟩
    publicStrings := ⟨publicStringsAt, publicStringCount⟩
    sentences := ⟨sentencesAt, sentenceCount⟩
    privateData := ⟨privateDataAt, privateSize⟩
    publicData := ⟨publicDataAt, publicSize⟩
    code := ⟨codeAt, codeSize⟩ }

theorem consumes_fields : fields.Consumes 84 := by
  unfold fields
  iterate 21 refine FieldParser.Consumes.bind FieldParser.Consumes.word fun _ => ?_
  exact FieldParser.Consumes.pure _

/-- A shape has 84 bytes. -/
def format : Record ProcedureShape where
  size := 84
  parser := fields
  fills := consumes_fields

def readTable [Memory] (part : Section) : Load (List ProcedureShape) :=
  part.records .shape format

end ProcedureShape

/-! ## Loaded procedures -/

/-- A procedure.  A part that the shape does not have is absent, which is more than empty. -/
structure Procedure where
  index : Nat
  id : UInt32
  name : String
  flags : ProcedureFlags
  params : UInt32
  sentenceCount : UInt32
  privateData : Option (List UInt8)
  publicData : Option (List UInt8)
  code : Option (List UInt32)
  privateStrings : List UInt32
  publicStrings : List UInt32
  privateVars : List Variable
  publicVars : List Variable
  /-- Where in the code the exit handler begins. -/
  exitAt : Option UInt32
  /-- Where in the code the error handler begins. -/
  errorAt : Option UInt32
  deriving DecidableEq, Repr

/-- An offset, if it is one: nothing has offset 0. -/
def handlerAt (offset : UInt32) : Option UInt32 :=
  if offset = 0 then none else some offset

namespace Procedure

/-- Whether the procedure has no code. -/
def isAbstract (procedure : Procedure) : Bool :=
  procedure.code.isNone

/-- Whether the procedure gives a result. -/
def isFunction (procedure : Procedure) : Bool :=
  procedure.flags.contains 4

def privateSize (procedure : Procedure) : Nat :=
  (procedure.privateData.getD []).length

def publicSize (procedure : Procedure) : Nat :=
  (procedure.publicData.getD []).length

variable [Memory]

/-- Reads the code of procedure number `index`, which has to be whole words. -/
def readCode (index : Nat) (code : Section) : Load (Option (List UInt32)) := do
  unless code.count % 4 = 0 do
    throw (.malformed (← get).phase (.raggedCode index code.count))
  code.part? fun code => Section.words ⟨code.offset, code.count / 4⟩

/-- Reads the parts of procedure number `index` and runs the pass over its private and then its
public data.  The sizes found before are used, and returned with those found now. -/
def load (spaces : List VariableSpace) (ids : IdTable) (pass : Pass) (sizes : SizeCache)
    (index : Nat) (shape : ProcedureShape) : Load (Procedure × SizeCache) := do
  let privateData ← shape.privateData.part? Section.bytes
  let publicData ← shape.publicData.part? Section.bytes
  let code ← readCode index shape.code
  let privateStrings ← shape.privateStrings.words
  let publicStrings ← shape.publicStrings.words
  let privateVars ← Variable.readTable shape.privateVars
  let publicVars ← Variable.readTable shape.publicVars
  let phase := (← get).phase
  let privateBlock ← Load.normalize pass spaces phase (.privateData index) privateVars
    ⟨sizes, privateData.getD []⟩
  let publicBlock ← Load.normalize pass spaces phase (.publicData index) publicVars
    ⟨privateBlock.sizes, publicData.getD []⟩
  let procedure : Procedure := {
    index
    id := shape.id
    name := ids.nameFor shape.id
    flags := ⟨shape.flags⟩
    params := shape.params
    sentenceCount := shape.sentences.count
    privateData := privateData.map fun _ => privateBlock.bytes
    publicData := publicData.map fun _ => publicBlock.bytes
    code, privateStrings, publicStrings, privateVars, publicVars
    exitAt := code.bind fun _ => handlerAt shape.exitAt
    errorAt := code.bind fun _ => handlerAt shape.errorAt }
  return (procedure, publicBlock.sizes)

/-- Reads the parts of procedures one after another, the first of which has number `index`. -/
def loadAll (spaces : List VariableSpace) (ids : IdTable) (pass : Pass) :
    (sizes : SizeCache) → (index : Nat) → List ProcedureShape → Load (List Procedure)
  | _, _, [] => pure []
  | sizes, index, shape :: rest => do
    let (procedure, found) ← load spaces ids pass sizes index shape
    return procedure :: (← loadAll spaces ids pass found (index + 1) rest)

/-- Reads the parts of all procedures, for which room is made first. -/
def loadTable (spaces : List VariableSpace) (ids : IdTable) (pass : Pass) (sizes : SizeCache)
    (shapes : List ProcedureShape) : Load (List Procedure) := do
  Load.allocate .procedure shapes.length
  loadAll spaces ids pass sizes 0 shapes

end Procedure

end CompiledModule
