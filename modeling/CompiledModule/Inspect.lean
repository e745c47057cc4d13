import CompiledModule.Error.Dump
import CompiledModule.Loader

namespace CompiledModule

/-!
# The summary of a module

The command line loads the module in a file and prints what it is made of: the sizes of its parts,
its procedures, and its system calls.  A second argument says how many bytes of the file come
before the module, in decimal, or in hexadecimal behind `0x`.

What is printed is computed here from the arguments and the contents of the file.  The arguments
are looked at before the file is opened, so a bad offset is reported even when there is no file.
-/

/-! ## Numerals -/

/-- Why a text is not a number. -/
inductive NumeralError where
  /-- There is nothing. -/
  | empty
  /-- Something is no digit, or there is only a sign. -/
  | invalidDigit
  /-- The number is too large. -/
  | overflow
  deriving DecidableEq, Repr

def NumeralError.name : NumeralError → String
  | empty => "Empty"
  | invalidDigit => "InvalidDigit"
  | overflow => "PosOverflow"

/-- The value of a digit in a base of at most sixteen. -/
def digitValue? (base : Nat) (c : Char) : Option Nat :=
  let value? : Option Nat :=
    if '0' ≤ c ∧ c ≤ '9' then some (c.toNat - 48)
    else if 'a' ≤ c ∧ c ≤ 'f' then some (c.toNat - 87)
    else if 'A' ≤ c ∧ c ≤ 'F' then some (c.toNat - 55)
    else none
  value?.filter (· < base)

/-- The number that digits spell behind the digits of `value`.  The first digit that cannot be
taken says what is wrong. -/
def digitsValue (base : Nat) : (value : Nat) → List Char → Except NumeralError Nat
  | value, [] => .ok value
  | value, c :: rest =>
    match digitValue? base c with
    | none => .error .invalidDigit
    | some digit =>
      let next := value * base + digit
      if next < sizeLimit then digitsValue base next rest else .error .overflow

/-- The number that a numeral spells.  A plus sign may stand before its digits. -/
def numeralValue (base : Nat) : List Char → Except NumeralError Nat
  | [] => .error .empty
  | ['+'] => .error .invalidDigit
  | '+' :: digits => digitsValue base 0 digits
  | digits => digitsValue base 0 digits

/-! ## Arguments -/

/-- Which module is asked for. -/
structure InspectRequest where
  path : String
  base : Nat
  deriving DecidableEq, Repr

/-- Why nothing is printed. -/
inductive InspectFailure where
  /-- No file is named. -/
  | usage
  /-- The offset is not a number. -/
  | offset (error : NumeralError)
  /-- The file cannot be opened. -/
  | unopened (fault : PathFault)
  /-- The module cannot be loaded. -/
  | unloaded (error : LoadError)
  deriving DecidableEq, Repr

def usageText : String := "usage: dcb-inspect <module.dcb> [base-offset]"

def InspectFailure.dump : InspectFailure → String
  | usage => quoted usageText
  | offset error => dumpRecord "ParseIntError" [("kind", error.name)]
  | unopened fault => fault.dump
  | unloaded error => error.dump

def offsetOfText (text : String) : Except NumeralError Nat :=
  match text.toList with
  | '0' :: 'x' :: digits => numeralValue 16 digits
  | digits => numeralValue 10 digits

/-- The request of a command's arguments.  Arguments behind the second one are not looked at. -/
def InspectRequest.ofArgs : List String → Except InspectFailure InspectRequest
  | [] => .error .usage
  | [path] => .ok ⟨path, 0⟩
  | path :: offset :: _ => do
    let base ← (offsetOfText offset).mapError .offset
    return ⟨path, base⟩

/-! ## The summary -/

def LoadedModule.overview (loaded : LoadedModule) : List String :=
  let entry :=
    match loaded.entryPoint? with
    | some procedure => s!"{procedure.name} (#{procedure.index})"
    | none => "none"
  [ s!"  version      0x{lowerHex 4 loaded.header.version.toNat}",
    s!"  globals      {loaded.globalData.length} bytes, {loaded.globalVars.length} vars",
    s!"  locals       {loaded.localData.length} bytes, {loaded.localVars.length} vars",
    s!"  strings      {loaded.strings.size}",
    s!"  ids          {loaded.ids.entries.size}",
    s!"  varspaces    {loaded.spaces.length}",
    s!"  files        {loaded.files.length}",
    s!"  imports      {loaded.imports.length}",
    s!"  entry point  {entry}" ]

def Procedure.summary (procedure : Procedure) : String :=
  let body :=
    match procedure.code with
    | some code => s!"{code.length} words"
    | none => "abstract"
  s!"  #{leftColumn 4 (toString procedure.index)} {leftColumn 24 procedure.name}" ++
    s!" params={procedure.params} private={procedure.privateSize}" ++
    s!" public={procedure.publicSize} {body}"

/-- The line about a system call, with the name that the module gives it. -/
def SystemCall.summary (call : SystemCall) (name : String) : String :=
  let binding :=
    match call.binding with
    | some dispatch => s!"bound to {dispatch}"
    | none => "unresolved"
  let signature := quoted (Utf8.decode call.signature)
  s!"  {leftColumn 24 name} call={call.callCode} kind={call.kind}" ++
    s!" sig={signature} {binding}"

def LoadedModule.summary (loaded : LoadedModule) (request : InspectRequest) : List String :=
  [s!"{request.path} @ 0x{hexDigits request.base}"] ++
    loaded.overview ++
    [s!"procedures ({loaded.procedures.length}):"] ++
    loaded.procedures.map Procedure.summary ++
    [s!"sysprocs ({loaded.systemCalls.length}):"] ++
    loaded.systemCalls.map fun call => call.summary (loaded.ids.nameFor call.nameCode)

/-! ## What the command does -/

/-- What a command leaves behind: its exit code, and what it has printed where. -/
structure CommandOutcome where
  exitCode : UInt32
  output : String
  errors : String
  deriving DecidableEq, Repr

def CommandOutcome.printed (lines : List String) : CommandOutcome :=
  ⟨0, String.join (lines.map (· ++ "\n")), ""⟩

def CommandOutcome.failed (failure : InspectFailure) : CommandOutcome :=
  ⟨1, "", "Error: " ++ failure.dump ++ "\n"⟩

section Answers

variable [Memory]

/-- Loads the module in a file.  A directory can be opened like a file, but not be read. -/
def InspectRequest.load (request : InspectRequest) (file : Except PathFault (List UInt8)) :
    Except InspectFailure LoadedModule :=
  match file with
  | .ok contents =>
    (LoadedModule.load .standard [] (fun _ => none) (.ofBytes contents) request.base).mapError
      .unloaded
  | .error .isDirectory => .error (.unloaded (.io .header (.path .isDirectory)))
  | .error fault => .error (.unopened fault)

/-- Answers a request, given what the file system has at its path. -/
def InspectRequest.answer (request : InspectRequest) (file : Except PathFault (List UInt8)) :
    CommandOutcome :=
  match request.load file with
  | .ok loaded => .printed (loaded.summary request)
  | .error failure => .failed failure

/-- The outcome of the command for its arguments and a file system. -/
def inspect (files : String → Except PathFault (List UInt8)) (args : List String) :
    CommandOutcome :=
  match InspectRequest.ofArgs args with
  | .ok request => request.answer (files request.path)
  | .error failure => .failed failure

end Answers

end CompiledModule
