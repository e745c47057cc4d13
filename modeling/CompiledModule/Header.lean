import CompiledModule.Section

namespace CompiledModule

/-!
# The header

A module begins with eight fixed bytes and then 29 words: its version, the counts of its sections,
and their offsets.  Counts and offsets are stored apart, each in an order of its own; here they
are put together again, so that whatever reads a section is handed one value.

The header is accepted when it begins with the fixed bytes and its version is not older than the
caller wants.  A file that begins with other bytes is no module at all, so its version is not
looked at.
-/

/-- What a module says of itself: its version, and where each of its sections is. -/
structure Header where
  version : UInt32
  procedures : Section
  files : Section
  ids : Section
  strings : Section
  text : Section
  globalData : Section
  globalVars : Section
  localData : Section
  localVars : Section
  localStrings : Section
  spaces : Section
  imports : Section
  sourceFiles : Section
  systemCalls : Section
  deriving DecidableEq, Repr, Inhabited

namespace Header

/-- The bytes that every module begins with. -/
def magic : List UInt8 := [0x64, 0x63, 0x62, 0x0D, 0x0A, 0x1F, 0, 0]

/-- The oldest version that is accepted unless an option says otherwise. -/
def oldestVersion : UInt32 := 0x0700

/-- The version that is written. -/
def currentVersion : UInt32 := 0x0710

def size : Nat := 124

open FieldParser in
def fields : FieldParser Header := do
  let version ← word
  let procedureCount ← word
  let fileCount ← word
  let idCount ← word
  let stringCount ← word
  let localVarCount ← word
  let localStringCount ← word
  let globalVarCount ← word
  let spaceCount ← word
  let importCount ← word
  let sourceFileCount ← word
  let systemCallCount ← word
  let globalSize ← word
  let localSize ← word
  let textSize ← word
  let proceduresAt ← word
  let idsAt ← word
  let stringsAt ← word
  let textAt ← word
  let globalDataAt ← word
  let globalVarsAt ← word
  let localDataAt ← word
  let localVarsAt ← word
  let localStringsAt ← word
  let spacesAt ← word
  let filesAt ← word
  let importsAt ← word
  let sourceFilesAt ← word
  let systemCallsAt ← word
  return {
    version
    procedures := ⟨proceduresAt, procedureCount⟩
    files := ⟨filesAt, fileCount⟩
    ids := ⟨idsAt, idCount⟩
    strings := ⟨stringsAt, stringCount⟩
    text := ⟨textAt, textSize⟩
    globalData := ⟨globalDataAt, globalSize⟩
    globalVars := ⟨globalVarsAt, globalVarCount⟩
    localData := ⟨localDataAt, localSize⟩
    localVars := ⟨localVarsAt, localVarCount⟩
    localStrings := ⟨localStringsAt, localStringCount⟩
    spaces := ⟨spacesAt, spaceCount⟩
    imports := ⟨importsAt, importCount⟩
    sourceFiles := ⟨sourceFilesAt, sourceFileCount⟩
    systemCalls := ⟨systemCallsAt, systemCallCount⟩ }

/-- The words of a header as they are stored, with the bytes that every module begins with. -/
def encode (header : Header) : List UInt8 :=
  magic ++ storedWords [
    header.version,
    header.procedures.count,
    header.files.count,
    header.ids.count,
    header.strings.count,
    header.localVars.count,
    header.localStrings.count,
    header.globalVars.count,
    header.spaces.count,
    header.imports.count,
    header.sourceFiles.count,
    header.systemCalls.count,
    header.globalData.count,
    header.localData.count,
    header.text.count,
    header.procedures.offset,
    header.ids.offset,
    header.strings.offset,
    header.text.offset,
    header.globalData.offset,
    header.globalVars.offset,
    header.localData.offset,
    header.localVars.offset,
    header.localStrings.offset,
    header.spaces.offset,
    header.files.offset,
    header.imports.offset,
    header.sourceFiles.offset,
    header.systemCalls.offset]

theorem consumes_fields : fields.Consumes 116 := by
  unfold fields
  iterate 29 refine FieldParser.Consumes.bind FieldParser.Consumes.word fun _ => ?_
  exact FieldParser.Consumes.pure _

/-- A header's first bytes, whatever they are, and its words. -/
def format : Record (List UInt8 × Header) where
  size := size
  parser := do
    let first ← FieldParser.bytes 8
    return (first, ← fields)
  fills :=
    (FieldParser.Consumes.bytes 8).bind fun _ =>
      consumes_fields.bind fun _ => FieldParser.Consumes.pure _

/-- Reads the header at the start of the module, wherever the reader stands. -/
def read (minimum : UInt32) : Load Header := do
  Load.enter .header
  let _ ← Load.seek (.start 0)
  let (first, header) ← Load.record format
  if first ≠ magic then
    throw (.badMagic first)
  if header.version < minimum then
    throw (.unsupportedVersion header.version minimum)
  return header

end Header

end CompiledModule
