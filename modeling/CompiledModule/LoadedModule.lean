import CompiledModule.EmbeddedFile
import CompiledModule.Header
import CompiledModule.Procedure
import CompiledModule.SourceListing
import CompiledModule.StringPool
import CompiledModule.SystemCall

namespace CompiledModule

/-!
# Loaded modules

A loaded module is complete: every part has been read, the data is in the order of the host, and
the system calls have been offered to the host's routines.  Procedures are found by name and
system calls by their code; in both cases the first one counts.
-/

structure LoadedModule where
  header : Header
  procedures : List Procedure
  /-- The first procedure of each name. -/
  procedureIndex : FirstIndex String Nat
  /-- The position of the procedure that execution begins with. -/
  entryIndex : Option Nat
  globalData : List UInt8
  localData : List UInt8
  globalVars : List Variable
  localVars : List Variable
  localStrings : List UInt32
  spaces : List VariableSpace
  ids : IdTable
  strings : StringPool
  files : List EmbeddedFile
  imports : List UInt32
  listings : List SourceListing
  systemCalls : List SystemCall
  /-- The first system call of each code. -/
  callIndex : FirstIndex UInt32 Nat

namespace LoadedModule

def procedure? (loaded : LoadedModule) (index : Nat) : Option Procedure :=
  loaded.procedures[index]?

/-- The first procedure with a name. -/
def procedureNamed? (loaded : LoadedModule) (name : String) : Option Procedure :=
  loaded.procedureIndex[name]?.bind loaded.procedure?

/-- The procedure that execution begins with. -/
def entryPoint? (loaded : LoadedModule) : Option Procedure :=
  loaded.entryIndex.bind loaded.procedure?

def space? (loaded : LoadedModule) (index : Nat) : Option VariableSpace :=
  loaded.spaces[index]?

/-- A line of a source file; lines are counted from 1. -/
def sourceLine? (loaded : LoadedModule) (file line : Nat) : Option String :=
  loaded.listings[file]?.bind (·.line? line)

def typeSize (loaded : LoadedModule) (type : TypeDescriptor) : Except LayoutError Nat :=
  match measure loaded.spaces type [] with
  | .ok size _ => .ok size
  | .error error _ => .error error

def systemCall? (loaded : LoadedModule) (callCode : UInt32) : Option SystemCall :=
  loaded.callIndex[callCode]?.bind (loaded.systemCalls[·]?)

/-- The routine that a call is made to. -/
def resolve (loaded : LoadedModule) (callCode : UInt32) : Except UnresolvedCall DispatchCode :=
  match loaded.systemCall? callCode with
  | none => .error ⟨callCode, IdTable.unknownName⟩
  | some call =>
    match call.binding with
    | some dispatch => .ok dispatch
    | none => .error ⟨callCode, loaded.ids.nameFor call.nameCode⟩

end LoadedModule

end CompiledModule
