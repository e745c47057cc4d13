import CompiledModule.IdTable

namespace CompiledModule

/-!
# System calls

A module lists the system calls that its code makes: the name, the kind of result, the number of
parameters, the types of the parameters as a signature, and the code by which the module refers to
the call.  The host lists the routines it offers.  Relocation binds a call to a routine that
agrees with it in all four: a signature that merely looks similar is another signature.

The host's list leads.  Each routine is offered to the first call that it agrees with, and to no
other one; a call that is bound already keeps its routine.  A call that stays unbound is no error
until it is made.
-/

/-- The number by which a host finds one of its routines. -/
abbrev DispatchCode := UInt32

/-- A system call of a module, with the routine it is bound to. -/
structure SystemCall where
  nameCode : UInt32
  kind : UInt32
  params : UInt32
  /-- The number by which the module's code makes the call. -/
  callCode : UInt32
  signature : List UInt8
  binding : Option DispatchCode
  deriving DecidableEq, Repr

structure HostRoutine where
  name : String
  kind : UInt32
  params : UInt32
  signature : String
  dispatch : DispatchCode
  deriving DecidableEq, Repr

/-- The routines of a host, in the order in which they are offered. -/
abbrev HostTable := List HostRoutine

namespace SystemCall

/-- Whether a call agrees with a routine whose name has the given code. -/
def agrees (call : SystemCall) (routine : HostRoutine) (nameCode : UInt32) : Bool :=
  call.kind == routine.kind && call.params == routine.params && call.nameCode == nameCode &&
    call.signature == Utf8.encode routine.signature

/-- The call bound to a routine, unless it is bound already. -/
def bind (call : SystemCall) (dispatch : DispatchCode) : SystemCall :=
  { call with binding := call.binding.or (some dispatch) }

/-- The calls after a routine has been offered to the first one that agrees with it. -/
def offer (routine : HostRoutine) (nameCode : UInt32) : List SystemCall → List SystemCall
  | [] => []
  | call :: rest =>
    if call.agrees routine nameCode then call.bind routine.dispatch :: rest
    else call :: offer routine nameCode rest

/-- The calls after every routine has been offered.  A routine whose name the module does not know
is passed over. -/
def relocate (host : HostTable) (ids : IdTable) (calls : List SystemCall) : List SystemCall :=
  host.foldl (fun calls routine =>
    match ids.codeFor? routine.name with
    | some nameCode => offer routine nameCode calls
    | none => calls) calls

/-! ## Stored calls -/

open FieldParser in
/-- The fixed part of a stored call.  Its signature, of one byte for each parameter, follows. -/
def format : Record SystemCall where
  size := 16
  parser := do
    let nameCode ← word
    let kind ← word
    let params ← word
    let callCode ← word
    return { nameCode, kind, params, callCode, signature := [], binding := none }
  fills :=
    FieldParser.Consumes.word.bind fun _ =>
      FieldParser.Consumes.word.bind fun _ =>
        FieldParser.Consumes.word.bind fun _ =>
          FieldParser.Consumes.word.bind fun _ => FieldParser.Consumes.pure _

def encode (call : SystemCall) : List UInt8 :=
  storedWords [call.nameCode, call.kind, call.params, call.callCode] ++ call.signature

variable [Memory]

def readEntry : Load SystemCall := do
  let call ← Load.record format
  let signature ← Load.bytes call.params.toNat
  return { call with signature }

def readTable (part : Section) : Load (List SystemCall) :=
  part.table .systemCall format.size readEntry

end SystemCall

/-! ## What relocation has done -/

/-- How many calls are bound, and how many are not. -/
structure RelocationReport where
  resolved : Nat
  unresolved : Nat
  deriving DecidableEq, Repr

def RelocationReport.ofCalls (calls : List SystemCall) : RelocationReport :=
  let resolved := calls.countP (·.binding.isSome)
  ⟨resolved, calls.length - resolved⟩

/-- A call that was made although nothing is bound to it. -/
structure UnresolvedCall where
  callCode : UInt32
  name : String
  deriving DecidableEq, Repr

def UnresolvedCall.message (call : UnresolvedCall) : String :=
  "system procedure '" ++ call.name ++
    s!"' (call code {call.callCode}) is not implemented by this host"

end CompiledModule
