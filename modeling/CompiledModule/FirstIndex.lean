import Std.Data.TreeMap.Basic

namespace CompiledModule

/-!
# First entries

Several lists of a module are searched by a key that need not be unique, and the first entry with
the key is always the one that counts.  An index holds what is looked for in that entry, which for
most lists is its position, so that a search need not go through the list.  Adding an entry never
changes an answer that is already there.
-/

/-- For each key of a list what its first entry has. -/
abbrev FirstIndex (κ β : Type) [Ord κ] := Std.TreeMap κ β

namespace FirstIndex

variable {κ β : Type} [Ord κ]

/-- The index with one more entry, which comes after all entries so far. -/
def add (index : FirstIndex κ β) (key : κ) (value : β) : FirstIndex κ β :=
  index.insertIfNew key value

def addAll (index : FirstIndex κ β) (entries : List (κ × β)) : FirstIndex κ β :=
  entries.foldl (fun index entry => index.add entry.1 entry.2) index

/-- The positions of a list's keys. -/
def ofKeys (keys : List κ) : FirstIndex κ Nat :=
  addAll ∅ keys.zipIdx

end FirstIndex

end CompiledModule
