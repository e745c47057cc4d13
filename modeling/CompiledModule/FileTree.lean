import CompiledModule.SourceListing

namespace CompiledModule

/-!
# Files below a directory

A tree holds what is below one directory: the directories and the files, each under the names that
lead to it.  A path is followed name by name.  Every name but the last has to be a directory, a
dot stands for the directory itself, two dots for the one above it, and a slash at the end asks
for a directory.

A path may leave the tree, upwards or by starting at the root of the file system.  There are only
directories out there, and none of them has anything in it that a name could find; two dots lead
from one to the next, and no way leads back.
-/

/-- The directories and the files below a directory, each with the names from there down to it.
Of two files with the same names the first one counts. -/
structure FileTree where
  directories : List (List String)
  files : List (List String × List UInt8)
  deriving DecidableEq, Repr

/-- A directory that a path has led to: one of the tree, or one outside it. -/
inductive Place where
  | inside (names : List String)
  | outside
  deriving DecidableEq, Repr

/-- The directory above a directory.  Above the root of the file system is that root again. -/
def Place.above : Place → Place
  | inside [] => outside
  | inside (name :: names) => inside (name :: names).dropLast
  | outside => outside

namespace FileTree

/-! ## Paths -/

def pathLimit : Nat := 4095

def nameLimit : Nat := 255

/-- The parts of a path between its slashes. -/
def parts (path : String) : List String :=
  (path.toList.splitOn '/').map String.ofList

/-- Whether a part of a path stands for the directory it is read in. -/
def isHere (part : String) : Bool :=
  part = "" || part = "."

/-- Whether a part of a path stands for the directory above. -/
def isAbove (part : String) : Bool :=
  part = ".."

/-! ## Writing files -/

def empty : FileTree :=
  ⟨[], []⟩

/-- The tree with a directory, which may be there already. -/
def addDirectory (tree : FileTree) (names : List String) : FileTree :=
  { tree with directories := names :: tree.directories }

/-- The tree with a file, in place of the one that had its names before. -/
def addFile (tree : FileTree) (names : List String) (contents : List UInt8) : FileTree :=
  { tree with files := (names, contents) :: tree.files }

/-- The tree after a file has been written at the end of a path.  The directories on the way are
made, also those that the path leaves again.  A path that leaves the tree writes nothing in it. -/
def write (contents : List UInt8) : FileTree → Place → List String → FileTree
  | tree, .inside names, part :: rest =>
    if isHere part then write contents tree (.inside names) rest
    else if isAbove part then write contents tree (Place.inside names).above rest
    else
      let place := names ++ [part]
      if rest.isEmpty then tree.addFile place contents
      else write contents (tree.addDirectory place) (.inside place) rest
  | tree, _, _ => tree

def ofPaths (files : List (String × List UInt8)) : FileTree :=
  files.foldl (fun tree file => write file.2 tree (.inside []) (parts file.1)) empty

/-! ## Reading files -/

def file? (tree : FileTree) (names : List String) : Option (List UInt8) :=
  (tree.files.find? (·.1 = names)).map (·.2)

def isDirectory (tree : FileTree) (names : List String) : Bool :=
  names.isEmpty || tree.directories.contains names

/-- Follows the parts of a path from a directory on. -/
def follow (tree : FileTree) : Place → List String → Except PathFault (List UInt8)
  | _, [] => .error .isDirectory
  | place, part :: rest =>
    if isHere part then follow tree place rest
    else if isAbove part then follow tree place.above rest
    else if nameLimit < part.utf8ByteSize then .error .tooLong
    else
      match place with
      | .outside => .error .missing
      | .inside names =>
        let next := names ++ [part]
        match tree.file? next with
        | some contents => if rest.isEmpty then .ok contents else .error .notDirectory
        | none => if tree.isDirectory next then follow tree (.inside next) rest else .error .missing

def read (tree : FileTree) (path : String) : Except PathFault (List UInt8) :=
  if path.isEmpty then .error .missing
  else if pathLimit < path.utf8ByteSize then .error .tooLong
  else if path.startsWith "/" then tree.follow .outside (parts path)
  else tree.follow (.inside []) (parts path)

/-- The path that a path becomes below a directory.  A path from the root of the file system stays
as it is. -/
def pathBelow (root path : String) : String :=
  if path.startsWith "/" then path else root ++ "/" ++ path

/-- The texts of the files, when the tree's own directory is at the path `root`.  A file is asked for
by its whole path, so the names that lead to the tree leave fewer bytes for those below it. -/
def provider (tree : FileTree) (root : String) : SourceProvider := fun path =>
  if pathLimit < (pathBelow root path).utf8ByteSize then none
  else
    match tree.read path with
    | .ok contents => some (Utf8.decode contents)
    | .error _ => none

end FileTree

end CompiledModule
