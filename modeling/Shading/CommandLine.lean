import Shading.Decode.Element
import Shading.Files
import Shading.Type.Conversion

/-!
The command line, as a function from its arguments and the contents of files to what it prints. It
lists decoded blobs, the builtin types and the costs of conversions between them.
-/

namespace Shading.CommandLine

/-- What a run of the program comes to. -/
inductive Outcome where
  /-- The program ends by itself, with an exit code and what it printed. -/
  | finished (code : UInt8) (output errors : String)
  /-- A fault ends the program before it prints anything. -/
  | crashed (fault : Fault)
  deriving DecidableEq, Repr

namespace Outcome

/-- The exit code; a fault has one of its own. -/
def code : Outcome → UInt8
  | finished code _ _ => code
  | crashed _ => 101

/-- What is printed as output. -/
def output : Outcome → String
  | finished _ output _ => output
  | crashed _ => ""

/-- What is printed as errors. -/
def errors : Outcome → String
  | finished _ _ errors => errors
  | crashed fault => fault.message?.getD "assertion failed" ++ "\n"

end Outcome

/-- Lines of text, each ended. -/
def lines (texts : List String) : String :=
  String.join (texts.map (· ++ "\n"))

def usage : String :=
  lines
    ["Glint front-end tools",
      "",
      "Usage: glintc <command> [options]",
      "",
      "Commands:",
      "  dump <blob>...       Rehydrate blobs and print their symbols and elements",
      "  cost <from> <to>     Show the coercion cost between two builtin types",
      "  types                List the builtin types",
      "  help                 Show this help message",
      "  version              Show version information",
      "",
      "Set RUST_LOG (e.g. RUST_LOG=glint_rehydrate=debug) to trace decoding."]

def version : String := "glintc 0.1.0-alpha.1"

/-- The listing of one file, or the line that says why there is none. All files are decoded in one
store, each below a new root table; the elements of a program are gone when it is listed. -/
def dumpFile (context : Context) (files : Files) (store : Store) (path : String) :
    Except Fault (Except String String × Store) :=
  match files path with
  | .error reason => .ok (.error s!"cannot read '{path}': {reason.message}", store)
  | .ok bytes =>
    let (root, store) := store.newRoot
    match Program.ofBlob context store root bytes with
    | .error fault => .error fault
    | .ok (.error header) =>
      .ok (.error s!"'{path}' is not a usable blob: {header.message}", store)
    | .ok (.ok (program, after)) =>
      .ok (.ok (program.listing after.store), program.elements.foldl Element.release after.store)

/-- Files one after the other. -/
def dumpFiles (context : Context) (files : Files) (store : Store) :
    List String → Except Fault (List (Except String String) × Store)
  | [] => .ok ([], store)
  | path :: paths => do
    let (first, store) ← dumpFile context files store path
    let (others, store) ← dumpFiles context files store paths
    return (first :: others, store)

/-- What a dumped file adds to the output. -/
def outputPart (path : String) : Except String String → String
  | .ok text => s!"== {path}\n{text}"
  | .error _ => ""

/-- What a dumped file adds to the errors. -/
def errorPart : Except String String → String
  | .ok _ => ""
  | .error reason => s!"error: {reason}\n"

/-- Lists files in the order of the arguments. Every file is decoded before anything is printed. -/
def dump (context : Context) (files : Files) (paths : List String) : Outcome :=
  match dumpFiles context files {} paths with
  | .error fault => .crashed fault
  | .ok (results, _) =>
    let output := String.join (List.zipWith outputPart paths results)
    let errors := String.join (results.map errorPart)
    .finished (if results.all fun result => result matches .ok _ then 0 else 1) output errors

/-- The cost of converting one builtin type to another, by name. -/
def cost (context : Context) (source target : String) : Outcome :=
  match Builtin.find? source, Builtin.find? target with
  | some sourceType, some targetType =>
    let cost := sourceType.costTo targetType
    let possible := cost.isPossible context.allowNarrowing
    .finished 0 s!"{source} -> {target}: {cost.text} (implicit: {possible})\n" ""
  | none, _ => .finished 1 "" s!"error: '{source}' is not a builtin type\n"
  | _, none => .finished 1 "" s!"error: '{target}' is not a builtin type\n"

def types : List String :=
  Builtin.all.map fun type => s!"{type.name} ({type.typeClass.name})"

/-- The paths of the files that a run reads. -/
def paths : List String → List String
  | "dump" :: paths => paths
  | _ => []

/-- A run of the program with the arguments after its name. -/
def run (files : Files) (arguments : List String) : Outcome :=
  let context : Context := {}
  match arguments with
  | [] => .finished 0 usage ""
  | "dump" :: [] => .finished 1 "" "Usage: glintc dump <blob>...\n"
  | "dump" :: paths => dump context files paths
  | ["cost", source, target] => cost context source target
  | "cost" :: _ => .finished 1 "" "Usage: glintc cost <from-type> <to-type>\n"
  | command :: _ =>
    if command = "types" then .finished 0 (lines types) ""
    else if command ∈ ["help", "--help", "-h"] then .finished 0 usage ""
    else if command ∈ ["version", "--version", "-V"] then .finished 0 (version ++ "\n") ""
    else .finished 1 usage s!"Unknown command: {command}\n\n"

end Shading.CommandLine
