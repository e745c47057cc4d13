import CompiledModule.Error.Message
import CompiledModule.Text.Quoted

namespace CompiledModule

/-!
# Errors in full

A dump shows an error as the name of its cause with all its fields, one after another between
braces.  It is what the command line prints when a module cannot be loaded, so the names and the
order of the fields are part of the program's output.
-/

/-- A cause with its fields, each a name and the text of its value.  A cause without fields is its
name alone. -/
def dumpRecord (name : String) (fields : List (String × String)) : String :=
  if fields.isEmpty then name
  else
    let shown := fields.map fun field => field.1 ++ ": " ++ field.2
    name ++ " \x7b " ++ ", ".intercalate shown ++ " \x7d"

def PathFault.name : PathFault → String
  | missing => "NotFound"
  | notDirectory => "NotADirectory"
  | isDirectory => "IsADirectory"
  | tooLong => "InvalidFilename"

def PathFault.dump (fault : PathFault) : String :=
  dumpRecord "Os" [("code", toString fault.code), ("kind", fault.name),
    ("message", quoted fault.text)]

/-- A stream's answer in full: one of the file system, one of the reader's own, or one that the
stream gave by itself. -/
def Fault.dump : Fault → String
  | path fault => fault.dump
  | endOfData =>
    dumpRecord "Error" [("kind", "UnexpectedEof"), ("message", quoted endOfData.message)]
  | seekOutside target length =>
    dumpRecord "Custom" [("kind", "InvalidInput"),
      ("error", quoted (seekOutside target length).message)]
  | fault => dumpRecord "Custom" [("kind", "Other"), ("error", quoted fault.message)]

def DataBlock.dump : DataBlock → String
  | globals => "Globals"
  | locals => "Locals"
  | privateData procedure => dumpRecord "Private" [("procedure", toString procedure)]
  | publicData procedure => dumpRecord "Public" [("procedure", toString procedure)]

namespace LayoutError

def name : LayoutError → String
  | unknownTag .. => "UnknownTypeTag"
  | unterminated => "UnterminatedDescriptor"
  | overrun .. => "DescriptorOverrun"
  | badStructRef .. => "BadStructRef"
  | structTooDeep _ => "StructTooDeep"
  | overflow => "LayoutOverflow"
  | tooComplex _ => "LayoutTooComplex"

def fields : LayoutError → List (String × String)
  | unknownTag tag link => [("tag", toString tag), ("link", toString link)]
  | unterminated => []
  | overrun offset length capacity =>
    [("offset", toString offset), ("len", toString length), ("capacity", toString capacity)]
  | badStructRef space available =>
    [("space", toString space), ("available", toString available)]
  | structTooDeep limit => [("depth", toString limit)]
  | overflow => []
  | tooComplex budget => [("budget", toString budget)]

end LayoutError

namespace LoadError

def name : LoadError → String
  | io .. => "Io"
  | truncated .. => "Truncated"
  | badMagic _ => "BadMagic"
  | unsupportedVersion .. => "UnsupportedVersion"
  | layout error => error.name
  | inBlock .. => "Layout"
  | malformed .. => "Malformed"
  | allocation .. => "Allocation"

/-- An error in full.  The cause of an error in a block is dumped inside it. -/
def dump : LoadError → String
  | io phase fault => dumpRecord "Io" [("phase", phase.name), ("source", fault.dump)]
  | truncated phase offset length available =>
    dumpRecord "Truncated" [("phase", phase.name), ("offset", toString offset),
      ("len", toString length), ("available", toString available)]
  | badMagic found =>
    let shown := found.map fun byte => toString byte
    dumpRecord "BadMagic" [("found", "[" ++ ", ".intercalate shown ++ "]")]
  | unsupportedVersion found minimum =>
    dumpRecord "UnsupportedVersion" [("found", toString found), ("minimum", toString minimum)]
  | layout error => dumpRecord error.name error.fields
  | inBlock phase block cause =>
    dumpRecord "Layout" [("phase", phase.name), ("block", block.dump), ("source", cause.dump)]
  | malformed phase defect =>
    dumpRecord "Malformed" [("phase", phase.name), ("reason", quoted defect.message)]
  | allocation phase bytes =>
    dumpRecord "Allocation" [("phase", phase.name), ("bytes", toString bytes)]

end LoadError

end CompiledModule
