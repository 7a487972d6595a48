import FixturePragmas.Path
import FixturePragmas.Text.Quoted

/-!
# Files

The program sees a file system through two questions, what there is at a path and what a file holds.
A question that cannot be answered has one of five faults. A path with a NUL in it is refused before
it reaches the file system.
-/

namespace FixturePragmas

/-- Why the file system gives no answer. -/
inductive FileFault where
  | notFound
  | notADirectory
  | isADirectory
  | nameTooLong
  | accessDenied
  deriving DecidableEq, Repr

/-- The number by which the system knows a fault. -/
def FileFault.number : FileFault → Nat
  | .notFound => 2
  | .notADirectory => 20
  | .isADirectory => 21
  | .nameTooLong => 36
  | .accessDenied => 13

/-- The wording of a fault. -/
def FileFault.text : FileFault → String
  | .notFound => "No such file or directory"
  | .notADirectory => "Not a directory"
  | .isADirectory => "Is a directory"
  | .nameTooLong => "File name too long"
  | .accessDenied => "Permission denied"

/-- A fault together with the path asked for. -/
structure FileError where
  fault : FileFault
  path : Path
  deriving DecidableEq, Repr

/-- The wording of a file error. -/
def FileError.message (e : FileError) : String :=
  s!"[Errno {e.fault.number}] {e.fault.text}: {Text.quoted e.path.toString}"

/-- What a path leads to. -/
inductive FileKind where
  | file
  | directory
  deriving DecidableEq, Repr

/-- A file system as the program sees it. -/
structure FileSystem where
  /-- The directory in which relative paths start. -/
  workingDirectory : Path
  /-- What there is at a path. -/
  kind : Path → Except FileFault FileKind
  /-- The bytes of the file at a path. -/
  bytes : Path → Except FileFault (List UInt8)

/-- What was found out about one path: the bytes of a file, or the fault in reading them. -/
structure Probe where
  path : Path
  found : Except FileFault (List UInt8)

/-- The file system known from probes, in which `dir` is the working directory. That a probe found a
directory shows in the fault; at paths without a probe there is nothing. -/
def FileSystem.ofProbes (dir : Path) (probes : List Probe) : FileSystem :=
  let found (p : Path) : Except FileFault (List UInt8) :=
    match probes.find? (·.path = p) with
    | some probe => probe.found
    | none => .error .notFound
  { workingDirectory := dir
    kind := fun p =>
      match found p with
      | .ok _ => .ok .file
      | .error .isADirectory => .ok .directory
      | .error fault => .error fault
    bytes := found }

/-- Why a file cannot be opened. -/
inductive OpenError where
  | system (e : FileError)
  | nulInPath
  deriving DecidableEq, Repr

namespace FileSystem

/-- The bytes of the file at `p`. -/
def read (fs : FileSystem) (p : Path) : Except OpenError (List UInt8) :=
  if p.hasNul then .error .nulInPath
  else (fs.bytes p).mapError fun fault => .system ⟨fault, p⟩

/-- Whether there is a file at `p`. That there is nothing at `p`, or nothing that could lead to it,
is an answer; any other fault is none. -/
def isFile (fs : FileSystem) (p : Path) : Except FileError Bool :=
  -- no question with a NUL in it reaches the file system, and here it has an answer
  if p.hasNul then .ok false
  else
    match fs.kind p with
    | .ok kind => .ok (kind = .file)
    | .error .notFound => .ok false
    | .error .notADirectory => .ok false
    | .error fault => .error ⟨fault, p⟩

/-- Whether there is a directory at `p`. -/
def isDirectory (fs : FileSystem) (p : Path) : Bool :=
  match fs.kind p with
  | .ok kind => kind = .directory
  | .error _ => false

end FileSystem

end FixturePragmas
