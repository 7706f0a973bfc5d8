/-!
Reading files by path. A path is walked step by step from a directory: an empty step and `.` stay
where they are, `..` leaves the directory, and a name has to be found. What is wrong first along the
way is why the file cannot be read.
-/

namespace Shading

/-- Why a file cannot be read. -/
inductive FileFault where
  | missing
  | denied
  | notDirectory
  | directory
  | nameTooLong
  | other (reason : String)
  deriving DecidableEq, Repr

/-- The wording of the system, with its number for the fault. -/
def FileFault.message : FileFault → String
  | missing => "No such file or directory (os error 2)"
  | denied => "Permission denied (os error 13)"
  | notDirectory => "Not a directory (os error 20)"
  | directory => "Is a directory (os error 21)"
  | nameTooLong => "File name too long (os error 36)"
  | other reason => reason

/-- The contents of the file that a path leads to, or why it cannot be read. -/
abbrev Files := String → Except FileFault (Array UInt8)

namespace Files

/-- The number of bytes that every path stays below. -/
def pathLimit : Nat := 4096

/-- The number of bytes that a name in a directory has at most. -/
def nameLimit : Nat := 255

/-- Walks the steps of a path, from the directory that holds the entries if `home` is set and from
one without any otherwise. A file ends the path: nothing comes after its name, not even an empty
step. -/
def walk (entries : List (String × Array UInt8)) (home : Bool) :
    List String → Except FileFault (Array UInt8)
  | [] => .error .directory
  | step :: rest =>
    if step = "" ∨ step = "." then walk entries home rest
    else if step = ".." then walk entries false rest
    else if nameLimit < step.utf8ByteSize then .error .nameTooLong
    else
      match if home then entries.lookup step else none with
      | none => .error .missing
      | some bytes => if rest.isEmpty then .ok bytes else .error .notDirectory

/-- The files of a working directory that holds nothing but files. No other directory is known to
hold any. -/
def ofList (entries : List (String × Array UInt8)) : Files := fun path =>
  if path = "" then .error .missing
  else if pathLimit ≤ path.utf8ByteSize then .error .nameTooLong
  else walk entries (!path.startsWith "/") (path.splitOn "/")

end Files

end Shading
