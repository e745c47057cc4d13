import CompiledModule.Phase

namespace CompiledModule

/-!
# What can go wrong

Each failure is recorded as its cause, with the numbers that describe it, and is put into words
only when somebody asks.  There are three levels.  A fault is what a stream answers instead of
bytes.  A layout error is what is wrong with a type or with the way its values lie in a block; it
does not know where the block came from.  A load error is a failure of the whole load: a fault or
a bad count in some phase, a file that is not a module, or a layout error together with the phase
and the block in which it was found.
-/

/-! ## Faults of a stream -/

/-- Where a reader is asked to go: from the start of the module, from where it stands, or from the
end. -/
inductive Seek where
  | start (offset : UInt32)
  | current (delta : Int)
  | fromEnd (delta : Int)
  deriving DecidableEq, Repr

/-- What a file system answers for a path that holds no readable file. -/
inductive PathFault where
  /-- Nothing has this name. -/
  | missing
  /-- The path goes on below a file. -/
  | notDirectory
  /-- The path names a directory. -/
  | isDirectory
  /-- The path is longer than paths can be, or one of its names is longer than names can be. -/
  | tooLong
  deriving DecidableEq, Repr

/-- What a stream answers instead of doing what it was asked. -/
inductive Fault where
  /-- The place is outside the module, whose length is given. -/
  | seekOutside (target : Seek) (length : Nat)
  /-- The stream would not move. -/
  | seekRefused
  /-- The stream would not be read. -/
  | readRefused
  /-- The stream has fewer bytes than it reported. -/
  | endOfData
  /-- No stream could be opened. -/
  | path (fault : PathFault)
  /-- Anything else, in the stream's own words. -/
  | other (text : String)
  deriving DecidableEq, Repr

/-! ## Errors of a layout -/

/-- Why the values of a type cannot be laid out. -/
inductive LayoutError where
  /-- A link of the type has a tag that stands for no type. -/
  | unknownTag (tag : UInt8) (link : Nat)
  /-- Every link is an array, so the type has no elements. -/
  | unterminated
  /-- The bytes of a run or of a span reach past the end of the block. -/
  | overrun (offset length capacity : Nat)
  /-- A struct's space is not among the module's spaces. -/
  | badStructRef (space : UInt32) (available : Nat)
  /-- Structs are nested deeper than the limit, or contain themselves. -/
  | structTooDeep (limit : Nat)
  /-- A size or an offset does not fit in 64 bits. -/
  | overflow
  /-- The runs of a block add up to more bytes than a walk may visit. -/
  | tooComplex (budget : Nat)
  deriving DecidableEq, Repr

/-! ## Errors of a load -/

/-- A module that is complete but says something impossible. -/
inductive Defect where
  /-- A procedure's code does not end at the end of a word. -/
  | raggedCode (procedure : Nat) (size : UInt32)
  /-- A string starts behind the text that the strings are cut from. -/
  | stringPastText (index : Nat) (start : UInt32) (textLength : Nat)
  /-- A defect stated by whoever found it. -/
  | stated (text : String)
  deriving DecidableEq, Repr

/-- Why a module was not loaded. -/
inductive LoadError where
  /-- The stream failed. -/
  | io (phase : Phase) (fault : Fault)
  /-- Fewer bytes are there than are asked for. -/
  | truncated (phase : Phase) (offset length available : Nat)
  /-- The file does not begin like a module. -/
  | badMagic (found : List UInt8)
  /-- The module is older than what is accepted. -/
  | unsupportedVersion (found minimum : UInt32)
  /-- A layout error that nobody has placed yet. -/
  | layout (error : LayoutError)
  /-- An error found while a data block was laid out. -/
  | inBlock (phase : Phase) (block : DataBlock) (cause : LoadError)
  /-- The module contradicts itself. -/
  | malformed (phase : Phase) (defect : Defect)
  /-- So much memory cannot be had. -/
  | allocation (phase : Phase) (bytes : Nat)
  deriving DecidableEq, Repr

/-- What a caller can do about an error: reject the file, look after the stream, or find memory. -/
inductive ErrorKind where
  | format
  | io
  | allocation
  deriving DecidableEq, Repr

namespace LoadError

/-- The failure itself, whatever blocks it is placed in. -/
def root : LoadError → LoadError
  | inBlock _ _ cause => cause.root
  | error => error

/-- The kind of an error is the kind of its root. -/
def kind : LoadError → ErrorKind
  | inBlock _ _ cause => cause.kind
  | io .. => .io
  | truncated .. => .io
  | allocation .. => .allocation
  | _ => .format

/-- The phase an error names, if it names one.  Both errors of the header belong to its phase, and
a layout error names a phase only once it is placed. -/
def phase : LoadError → Option Phase
  | io phase _ => some phase
  | truncated phase .. => some phase
  | badMagic _ => some .header
  | unsupportedVersion .. => some .header
  | layout _ => none
  | inBlock phase .. => some phase
  | malformed phase _ => some phase
  | allocation phase _ => some phase

end LoadError

end CompiledModule
