import Shading.CommandLine

/-!
The program: it reads the files that the command line names and prints what the run comes to.
-/

open Shading

/-- Whether the system answered with a number, which comes with either sign. -/
def isAnswer (number code : UInt32) : Bool := code == number || code == -number

/-- Why a file cannot be read, from what the system answered. -/
def readFault : IO.Error → FileFault
  | .noFileOrDirectory .. => .missing
  | .permissionDenied .. => .denied
  | .inappropriateType _ code _ => if isAnswer 20 code then .notDirectory else .directory
  | .invalidArgument _ code details => if isAnswer 36 code then .nameTooLong else .other details
  | error => .other (toString error)

/-- The contents of a file, or why it cannot be read. -/
def readFile (path : String) : IO (Except FileFault (Array UInt8)) := do
  try
    let bytes ← IO.FS.readBinFile path
    return .ok bytes.data
  catch error => return .error (readFault error)

def main (arguments : List String) : IO UInt32 := do
  let contents ← (CommandLine.paths arguments).mapM fun path => return (path, ← readFile path)
  let files : Files := fun path => (contents.lookup path).getD (.error .missing)
  let outcome := CommandLine.run files arguments
  IO.print outcome.output
  IO.eprint outcome.errors
  return outcome.code.toUInt32
