namespace CompiledModule

/-!
# Phases and blocks

Loading a module is a fixed sequence of phases, and every failure names the phase it happened in.
A failure in the layout of a data block also names the block: the module's globals, the locals
that each instance of a process starts from, or the private or public data of one procedure.
-/

/-- The steps of a load, in the order in which they are taken. -/
inductive Phase where
  | header
  | shapeTable
  | strings
  | includedFiles
  | imports
  | idTable
  | globalVars
  | localVars
  | variableSpaces
  | sourceListings
  | procedures
  | relocation
  | ready
  deriving DecidableEq, Repr

namespace Phase

def rank : Phase → Nat
  | header => 0
  | shapeTable => 1
  | strings => 2
  | includedFiles => 3
  | imports => 4
  | idTable => 5
  | globalVars => 6
  | localVars => 7
  | variableSpaces => 8
  | sourceListings => 9
  | procedures => 10
  | relocation => 11
  | ready => 12

def precedes (earlier later : Phase) : Bool :=
  earlier.rank < later.rank

def all : List Phase :=
  [header, shapeTable, strings, includedFiles, imports, idTable, globalVars, localVars,
    variableSpaces, sourceListings, procedures, relocation, ready]

/-- What a message calls the part of the module that a phase reads. -/
def label : Phase → String
  | header => "header"
  | shapeTable => "procedure shape table"
  | strings => "string pool"
  | includedFiles => "included files"
  | imports => "imports"
  | idTable => "id table"
  | globalVars => "global variables"
  | localVars => "local variables"
  | variableSpaces => "variable spaces"
  | sourceListings => "source listings"
  | procedures => "procedures"
  | relocation => "sysproc relocation"
  | ready => "ready"

def name : Phase → String
  | header => "Header"
  | shapeTable => "ShapeTable"
  | strings => "Strings"
  | includedFiles => "IncludedFiles"
  | imports => "Imports"
  | idTable => "IdTable"
  | globalVars => "GlobalVars"
  | localVars => "LocalVars"
  | variableSpaces => "NamedVarSpaces"
  | sourceListings => "SourceListings"
  | procedures => "Procedures"
  | relocation => "Relocation"
  | ready => "Ready"

end Phase

/-- The data block whose variables are laid out. -/
inductive DataBlock where
  | globals
  | locals
  | privateData (procedure : Nat)
  | publicData (procedure : Nat)
  deriving DecidableEq, Repr

def DataBlock.label : DataBlock → String
  | globals => "global data"
  | locals => "local data"
  | privateData procedure => s!"private data of procedure {procedure}"
  | publicData procedure => s!"public data of procedure {procedure}"

end CompiledModule
