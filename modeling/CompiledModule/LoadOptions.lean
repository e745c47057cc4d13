import CompiledModule.Header
import CompiledModule.Layout.Block

namespace CompiledModule

/-!
# Options of a load

What a caller may choose when a module is loaded: the byte order of the host, the oldest version
that is accepted, which procedure is the entry point, and whether listings are wanted and data is
checked.  Every option has a value for those who do not care.
-/

structure LoadOptions where
  /-- The order that data is converted to. -/
  hostOrder : ByteOrder
  minimumVersion : UInt32
  /-- The name of the procedure that execution begins with. -/
  entryPoint : String
  /-- Whether the text of source files is fetched. -/
  loadSources : Bool
  /-- Whether data is checked when it need not be converted. -/
  checkData : Bool
  deriving DecidableEq, Repr

namespace LoadOptions

/-- What is chosen for those who choose nothing. -/
def standard : LoadOptions where
  hostOrder := .native
  minimumVersion := Header.oldestVersion
  entryPoint := "MAIN"
  loadSources := true
  checkData := true

/-- The pass that is run over the blocks of data. -/
def pass (options : LoadOptions) : Pass :=
  Pass.forHost options.hostOrder options.checkData

end LoadOptions

end CompiledModule
