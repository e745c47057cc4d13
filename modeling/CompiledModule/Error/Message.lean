import CompiledModule.Error
import CompiledModule.Text.Numeral

namespace CompiledModule

/-!
# Errors in words

One sentence for each cause.  A message names the phase and the block by their labels and shows
offsets of a stream in hexadecimal, counts in decimal.
-/

def Seek.text : Seek → String
  | start offset => s!"Start({offset})"
  | current delta => s!"Current({delta})"
  | fromEnd delta => s!"End({delta})"

/-- What a file system says of a path, without the number it gives to the answer. -/
def PathFault.text : PathFault → String
  | missing => "No such file or directory"
  | notDirectory => "Not a directory"
  | isDirectory => "Is a directory"
  | tooLong => "File name too long"

def PathFault.code : PathFault → Nat
  | missing => 2
  | notDirectory => 20
  | isDirectory => 21
  | tooLong => 36

def Fault.message : Fault → String
  | seekOutside target length => s!"seek {target.text} leaves the {length}-byte container"
  | seekRefused => "injected seek fault"
  | readRefused => "injected read fault"
  | endOfData => "failed to fill whole buffer"
  | path fault => s!"{fault.text} (os error {fault.code})"
  | other text => text

def LayoutError.message : LayoutError → String
  | unknownTag tag link => s!"unknown type tag {tag} at descriptor link {link}"
  | unterminated => "type descriptor chain does not end in a scalar or struct"
  | overrun offset length capacity =>
    s!"variable data at offset {offset} len {length} overruns its {capacity}-byte block"
  | badStructRef space available =>
    s!"struct refers to variable space {space} but only {available} exist"
  | structTooDeep limit => s!"struct nesting exceeds {limit} levels"
  | overflow => "variable layout size overflows"
  | tooComplex budget => s!"variable layout visits more than {budget} bytes of its block"

def Defect.message : Defect → String
  | raggedCode procedure size =>
    s!"procedure {procedure} code size {size} is not a whole number of words"
  | stringPastText index start textLength =>
    s!"string {index} starts at {start} past the {textLength}-byte text block"
  | stated text => text

namespace LoadError

/-- The message of an error.  An error in a block ends with the message of its cause. -/
def message : LoadError → String
  | io phase fault => s!"I/O error while reading {phase.label}: {fault.message}"
  | truncated phase offset length available =>
    s!"{phase.label} needs {length} bytes at 0x{upperHex 8 offset} " ++
      s!"but the container holds only 0x{upperHex 8 available}"
  | badMagic found =>
    let shown := found.map fun byte => upperHex 2 byte.toNat
    "bad module magic [" ++ ", ".intercalate shown ++ "]"
  | unsupportedVersion found minimum =>
    s!"module version 0x{upperHex 4 found.toNat} is older than " ++
      s!"the minimum 0x{upperHex 4 minimum.toNat}"
  | layout error => error.message
  | inBlock phase block cause => s!"{phase.label}: bad layout in {block.label}: {cause.message}"
  | malformed phase defect => s!"malformed {phase.label}: {defect.message}"
  | allocation phase bytes => s!"could not allocate {bytes} bytes for {phase.label}"

/-- The message of what lies behind an error: the stream's own, or that of the cause found in a
block. -/
def causeMessage? : LoadError → Option String
  | io _ fault => some fault.message
  | inBlock _ _ cause => some cause.message
  | _ => none

end LoadError

end CompiledModule
