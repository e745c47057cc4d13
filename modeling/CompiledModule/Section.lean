import CompiledModule.Reader

namespace CompiledModule

/-!
# Sections

A header says of each part of a module where it begins and how many entries it has.  That pair is
a section.  An empty section has no place: whatever its offset says, nothing is looked at.
-/

/-- A part of a module: its offset from the module's first byte, and how many entries stand there.
The entries of a block of data or of a text are bytes. -/
structure Section where
  offset : UInt32
  count : UInt32
  deriving DecidableEq, Repr, Inhabited

namespace Section

variable [Memory]

/-- Reads the entries at the section's offset, if it has any. -/
def entries (part : Section) (body : (count : Nat) → Load (List α)) : Load (List α) :=
  if part.count = 0 then pure []
  else do
    let _ ← Load.seek (.start part.offset)
    body part.count.toNat

/-- Reads a part that is absent when its section is empty. -/
def part? (part : Section) (body : Section → Load α) : Load (Option α) :=
  if part.count = 0 then pure none else some <$> body part

def bytes (part : Section) : Load (List UInt8) :=
  part.entries Load.bytes

def words (part : Section) : Load (List UInt32) :=
  part.entries Load.words

/-- A section of entries that have at least `size` bytes each.  That many bytes have to be there,
and room for the values, before the first entry is read. -/
def table (part : Section) (cell : Cell) (size : Nat) (entry : Load α) : Load (List α) :=
  part.entries fun count => do
    Load.reserveFor cell count size
    Load.times entry count

def records (part : Section) (cell : Cell) (format : Record α) : Load (List α) :=
  part.table cell format.size (Load.record format)

end Section

end CompiledModule
