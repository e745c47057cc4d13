import CompiledModule.LoadOptions
import CompiledModule.LoadedModule

namespace CompiledModule

/-!
# Loading a module

A load goes through the phases in order and reads each section once.  Global and local data are
laid out as soon as the variable spaces are known, and each procedure's data together with the
procedure; all of them share the sizes found on the way.  The first failure ends the load, and
nothing that was read before it is handed out.

Listings are the exception.  Their paths are part of the module and have to be readable; their
texts are not, and may be missing.
-/

namespace LoadedModule

variable [Memory]

def readListings (options : LoadOptions) (provider : SourceProvider) (paths : Section) :
    Load (List SourceListing) := do
  let paths ← SourceListing.readPaths paths
  if options.loadSources then
    return paths.map (SourceListing.fetch provider)
  else
    return paths.map SourceListing.missing

/-- Reads the module that the reader stands in. -/
def read (options : LoadOptions) (host : HostTable) (provider : SourceProvider) :
    Load LoadedModule := do
  let header ← Header.read options.minimumVersion
  Load.enter .shapeTable
  let shapes ← ProcedureShape.readTable header.procedures
  Load.enter .strings
  let strings ← StringPool.read header.strings header.text
  Load.enter .includedFiles
  let files ← EmbeddedFile.readTable header.files
  Load.enter .imports
  let imports ← header.imports.words
  Load.enter .idTable
  let ids ← IdTable.read header.ids
  Load.enter .globalVars
  let globalData ← header.globalData.bytes
  let globalVars ← Variable.readTable header.globalVars
  Load.enter .localVars
  let localData ← header.localData.bytes
  let localVars ← Variable.readTable header.localVars
  let localStrings ← header.localStrings.words
  Load.enter .variableSpaces
  let spaces ← VariableSpace.readAll header.spaces
  let globals ← Load.normalize options.pass spaces .globalVars .globals globalVars
    ⟨[], globalData⟩
  let locals ← Load.normalize options.pass spaces .localVars .locals localVars
    ⟨globals.sizes, localData⟩
  Load.enter .sourceListings
  let listings ← readListings options provider header.sourceFiles
  Load.enter .procedures
  let procedures ← Procedure.loadTable spaces ids options.pass locals.sizes shapes
  Load.enter .relocation
  let calls ← SystemCall.readTable header.systemCalls
  Load.enter .ready
  let systemCalls := SystemCall.relocate host ids calls
  let procedureIndex := FirstIndex.ofKeys (procedures.map Procedure.name)
  return {
    entryIndex := procedureIndex[options.entryPoint]?
    callIndex := FirstIndex.ofKeys (systemCalls.map SystemCall.callCode)
    globalData := globals.bytes
    localData := locals.bytes
    header, procedures, procedureIndex, globalVars, localVars, localStrings, spaces, ids,
    strings, files, imports, listings, systemCalls }

/-- Loads the module that begins `base` bytes into a stream. -/
def load (options : LoadOptions) (host : HostTable) (provider : SourceProvider)
    (stream : Stream) (base : Nat) : Except LoadError LoadedModule := do
  let reader ← Reader.open? stream base
  match read options host provider reader with
  | .ok loaded _ => return loaded
  | .error error _ => throw error

/-- Loads a module from a file of its own, if the file could be opened. -/
def loadFile (options : LoadOptions) (host : HostTable) (provider : SourceProvider)
    (file : Except PathFault (List UInt8)) : Except LoadError LoadedModule :=
  match file with
  | .ok contents => load options host provider (.ofBytes contents) 0
  | .error fault => .error (.io .header (.path fault))

end LoadedModule

end CompiledModule
