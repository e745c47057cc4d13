import CompiledModule.EmbeddedFile
import CompiledModule.Header
import CompiledModule.Procedure
import CompiledModule.SourceListing
import CompiledModule.SystemCall

namespace CompiledModule

/-!
# Writing a module

An image is the content of a module without any offsets.  Writing it lays the parts out one after
another behind the header, in a fixed order in which whatever is referred to by offset comes
before the table that refers to it: the contents of files before the table of files, member tables
before the directory of spaces, the parts of all procedures before their shapes.  When a part is
placed, its offset is the number of bytes written so far, and the header is put in front when all
offsets are known.

Counts and offsets are words.  A number that does not fit in one stands at the largest word.
-/

/-- The content of a procedure.  Its data is in the order of the file. -/
structure ProcedureImage where
  id : UInt32
  flags : UInt32
  params : UInt32
  privateData : List UInt8
  privateVars : List Variable
  privateStrings : List UInt32
  publicData : List UInt8
  publicVars : List Variable
  publicStrings : List UInt32
  code : List UInt32
  exitAt : UInt32
  errorAt : UInt32
  deriving DecidableEq, Repr

/-- The content of a module. -/
structure Image where
  version : UInt32
  ids : List IdEntry
  strings : List String
  /-- The names and the contents of the files it carries. -/
  files : List (String × List UInt8)
  imports : List UInt32
  globalData : List UInt8
  globalVars : List Variable
  localData : List UInt8
  localVars : List Variable
  localStrings : List UInt32
  spaces : List VariableSpace
  sourceFiles : List String
  systemCalls : List SystemCall
  procedures : List ProcedureImage
  deriving DecidableEq, Repr

/-- A count or an offset as a word. -/
def storedCount (count : Nat) : UInt32 :=
  if count ≤ 0xFFFFFFFF then UInt32.ofNat count else 0xFFFFFFFF

/-! ## Placing parts -/

/-- What has been written behind the header: the parts, of which the last one comes first, and how
many bytes they have together. -/
structure Written where
  parts : List (List UInt8)
  length : Nat
  length_eq : length = parts.flatten.length

namespace Written

def empty : Written :=
  ⟨[], 0, rfl⟩

def add (written : Written) (part : List UInt8) : Written where
  parts := part :: written.parts
  length := written.length + part.length
  length_eq := by
    rw [List.flatten_cons, List.length_append, written.length_eq, Nat.add_comm]

/-- The bytes of all parts in the order in which they were written. -/
def bytes (written : Written) : List UInt8 :=
  written.parts.reverse.flatten

theorem bytes_add (written : Written) (part : List UInt8) :
    (written.add part).bytes = written.bytes ++ part := by
  simp [bytes, add]

theorem length_bytes (written : Written) : written.bytes.length = written.length := by
  rw [written.length_eq, bytes]
  simp [List.length_flatten]

end Written

/-- Writing behind the header. -/
abbrev Draft := StateM Written

namespace Draft

/-- Writes a part that is counted as `count` entries, and gives its section. -/
def place (count : Nat) (part : List UInt8) : Draft Section := fun written =>
  (⟨storedCount (Header.size + written.length), storedCount count⟩, written.add part)

def bytes (data : List UInt8) : Draft Section :=
  place data.length data

def words (words : List UInt32) : Draft Section :=
  place words.length (storedWords words)

def table (encode : α → List UInt8) (entries : List α) : Draft Section :=
  place entries.length (entries.flatMap encode)

end Draft

/-! ## Parts of an image -/

def zeroEnded (text : String) : List UInt8 :=
  Utf8.encode text ++ [0]

/-- Where strings start that are written one after another, the first of them at `start`. -/
def stringStarts : (start : Nat) → List String → List UInt32
  | _, [] => []
  | start, text :: rest =>
    storedCount start :: stringStarts (start + (zeroEnded text).length) rest

namespace ProcedureImage

/-- Writes the parts of a procedure and gives its shape. -/
def draft (image : ProcedureImage) : Draft ProcedureShape := do
  let privateData ← Draft.bytes image.privateData
  let publicData ← Draft.bytes image.publicData
  let code ← Draft.place (image.code.length * 4) (storedWords image.code)
  let privateStrings ← Draft.words image.privateStrings
  let publicStrings ← Draft.words image.publicStrings
  let privateVars ← Draft.table Variable.encode image.privateVars
  let publicVars ← Draft.table Variable.encode image.publicVars
  return {
    id := image.id
    flags := image.flags
    params := image.params
    sentences := ⟨0, 0⟩
    exitAt := image.exitAt
    errorAt := image.errorAt
    privateVars, privateStrings, publicVars, publicStrings, privateData, publicData, code }

end ProcedureImage

namespace Image

/-- Writes all parts of a module and gives its header. -/
def draft (image : Image) : Draft Header := do
  let ids ← Draft.table IdTable.encodeEntry image.ids
  let strings ← Draft.words (stringStarts 0 image.strings)
  let text ← Draft.bytes (image.strings.flatMap zeroEnded)
  let contents ← image.files.mapM fun file => Draft.bytes file.2
  let files ← Draft.table
    (fun (name, contents) =>
      EmbeddedFile.encodeEntry name contents (storedCount (zeroEnded name).length))
    ((image.files.map (·.1)).zip contents)
  let imports ← Draft.words image.imports
  let globalData ← Draft.bytes image.globalData
  let globalVars ← Draft.table Variable.encode image.globalVars
  let localData ← Draft.bytes image.localData
  let localVars ← Draft.table Variable.encode image.localVars
  let localStrings ← Draft.words image.localStrings
  let members ← image.spaces.mapM (Draft.table Variable.encode)
  let spaces ← Draft.table VariableSpace.encodeEntry members
  let sourceFiles ← Draft.table
    (fun path => SourceListing.encodePath path (storedCount (zeroEnded path).length))
    image.sourceFiles
  let systemCalls ← Draft.table SystemCall.encode image.systemCalls
  let shapes ← image.procedures.mapM ProcedureImage.draft
  let procedures ← Draft.table ProcedureShape.encode shapes
  return {
    version := image.version
    procedures, files, ids, strings, text, globalData, globalVars, localData, localVars,
    localStrings, spaces, imports, sourceFiles, systemCalls }

def encodeWithHeader (image : Image) : Header × List UInt8 :=
  let (header, written) := image.draft.run .empty
  (header, header.encode ++ written.bytes)

def encode (image : Image) : List UInt8 :=
  image.encodeWithHeader.2

end Image

end CompiledModule
