import CompiledModule.Inspect

/-!
# The command line

Reads the file that the arguments name and prints the summary of the module in it.
-/

namespace CompiledModule

/-- The contents of a file, or what the file system says instead. -/
def readContents (path : String) : IO (Except PathFault (List UInt8)) := do
  try
    let contents ← IO.FS.readBinFile path
    return .ok contents.toList
  catch error =>
    match error with
    | .inappropriateType _ 21 _ => return .error .isDirectory
    | .inappropriateType .. => return .error .notDirectory
    | .invalidArgument _ 36 _ => return .error .tooLong
    | _ => return .error .missing

/-- Prints what a command leaves behind and gives its exit code. -/
def finish (outcome : CommandOutcome) : IO UInt32 := do
  IO.print outcome.output
  IO.eprint outcome.errors
  return outcome.exitCode

end CompiledModule

open CompiledModule in
def main (args : List String) : IO UInt32 := do
  match InspectRequest.ofArgs args with
  | .ok request => finish (request.answer (← readContents request.path))
  | .error failure => finish (.failed failure)
