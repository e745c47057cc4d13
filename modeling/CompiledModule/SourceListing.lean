import CompiledModule.Section

namespace CompiledModule

/-!
# Source listings

A module names the files it was compiled from.  Whoever loads it may have their text, and then
each file is listed line by line for the debugger.  A text that cannot be had makes the listing a
missing one and is never a reason not to load the module.

A line ends with a newline or with the text, and a text that ends with a newline has no empty line
behind it.  Blanks at both ends of a line are dropped, and carriage returns are blanks.
-/

/-- Gives the text of a source file, if it has it. -/
abbrev SourceProvider := (path : String) → Option String

/-- A source file: its path, and its lines unless the text is missing. -/
structure SourceListing where
  path : String
  lines? : Option (List String)
  deriving DecidableEq, Repr

/-- The pieces of a text between its newlines, without an empty piece at the end. -/
def splitLines : List Char → List (List Char)
  | [] => []
  | c :: rest =>
    if c = '\n' then [] :: splitLines rest
    else
      match splitLines rest with
      | [] => [[c]]
      | line :: more => (c :: line) :: more

/-- What is dropped at the ends of a line. -/
def isBlank (c : Char) : Bool :=
  c = ' ' || c = '\n' || c = '\r' || c = '\t'

/-- A line without the blanks at its ends. -/
def trimLine (line : List Char) : List Char :=
  ((line.dropWhile isBlank).reverse.dropWhile isBlank).reverse

namespace SourceListing

def missing (path : String) : SourceListing :=
  ⟨path, none⟩

def linesOf (text : String) : List String :=
  (splitLines text.toList).map fun line => String.ofList (trimLine line)

def ofText (path text : String) : SourceListing :=
  ⟨path, some (linesOf text)⟩

/-- The listing of a file whose text a provider may have. -/
def fetch (provider : SourceProvider) (path : String) : SourceListing :=
  match provider path with
  | some text => ofText path text
  | none => missing path

theorem path_fetch (provider : SourceProvider) (path : String) :
    (fetch provider path).path = path := by
  rw [fetch]
  split <;> rfl

theorem paths_fetch (provider : SourceProvider) (paths : List String) :
    (paths.map (fetch provider)).map SourceListing.path = paths := by
  rw [List.map_map]
  exact (List.map_congr_left fun path _ => path_fetch provider path).trans (List.map_id _)

theorem paths_missing (paths : List String) :
    (paths.map missing).map SourceListing.path = paths := by
  rw [List.map_map]
  exact List.map_id _

def found (listing : SourceListing) : Bool :=
  listing.lines?.isSome

/-- The lines; a missing listing has none. -/
def lines (listing : SourceListing) : List String :=
  listing.lines?.getD []

/-- A line by its number.  The first line has number 1. -/
def line? (listing : SourceListing) : (number : Nat) → Option String
  | 0 => none
  | index + 1 => listing.lines[index]?

variable [Memory]

/-- Reads a path: the size of its slot, and the slot. -/
def readPath : Load String := do
  let size ← Load.word
  Load.name size.toNat

def encodePath (path : String) (size : UInt32) : List UInt8 :=
  storedWord size ++ Utf8.encode path ++ [0]

def readPaths (part : Section) : Load (List String) :=
  part.table .path 4 readPath

end SourceListing

end CompiledModule
