import FixturePragmas.Dialect.Catalog
import FixturePragmas.Files
import FixturePragmas.Scan
import FixturePragmas.Text.Utf8

/-!
# Fixtures

A fixture is a source file that says in its comments which findings an analyser should make. Its
file holds UTF-8; a byte order mark at the start is dropped, and all line ends become LF. The
openers under which it is scanned are given, or are those of its dialect in a catalog; a fixture
without a dialect is refused before its file is looked at.
-/

namespace FixturePragmas

/-- A scanned text: its pragmas, the openers it was scanned with, and where it was read from. -/
structure Fixture where
  table : Table
  openers : List String
  path? : Option Path
  deriving DecidableEq

/-- Why the file of a fixture cannot be read. -/
inductive ReadFault where
  | missing
  | system (e : FileError)
  | malformed (m : Text.Utf8.Malformed)
  deriving DecidableEq, Repr

/-- The fault in reading the file at a path. -/
structure ReadError where
  path : Path
  fault : ReadFault
  deriving DecidableEq, Repr

/-- The sorts of faults in reading that callers tell apart. -/
inductive ReadError.Reason where
  | notFound
  | encoding
  | io
  deriving DecidableEq, Repr

namespace ReadError

/-- The sort of a fault. -/
def reason (e : ReadError) : Reason :=
  match e.fault with
  | .missing => .notFound
  | .system _ => .io
  | .malformed _ => .encoding

/-- The word for a sort of faults. -/
def Reason.name : Reason → String
  | notFound => "not_found"
  | encoding => "encoding"
  | io => "io"

/-- The sort of faults a word stands for; a word that stands for none counts as `io`. -/
def Reason.ofName (s : String) : Reason :=
  if s = notFound.name then notFound else if s = encoding.name then encoding else io

/-- The wording of a fault. -/
def message (e : ReadError) : String :=
  match e.fault with
  | .missing => s!"File not found: {e.path}"
  | .system fault => s!"Cannot read {e.path}: {fault.message}"
  | .malformed m => s!"{e.path} is not valid UTF-8: {m.message}"

end ReadError

namespace Fixture

/-- Why there is no fixture for a path. -/
inductive Failure where
  /-- The path has no dialect, and no openers are given. -/
  | unknownDialect (path : Path)
  /-- The file cannot be read. -/
  | unreadable (e : ReadError)
  /-- No file can have this path, which has a NUL in it. -/
  | nulInPath
  /-- A column is too long to be read. -/
  | column (e : Text.Numeral.Error)
  deriving DecidableEq, Repr

/-- The wording of a failure for want of a dialect. -/
def unknownDialectMessage (path : Path) : String :=
  s!"No comment dialect known for '{path}'; pass comment prefixes explicitly"

/-! ### Reading -/

/-- The byte order mark. -/
def byteOrderMark : Char := Char.ofNat 0xFEFF

/-- Drop the byte order mark a text starts with. -/
def withoutMark (path : Path) (cs : List Char) : Journal Log.Note Failure (List Char) :=
  match cs with
  | [] => pure []
  | c :: rest =>
    if c = byteOrderMark then do
      .write (.byteOrderMark path)
      return rest
    else pure (c :: rest)

/-- How a fixture that cannot be opened is reported. -/
def Failure.ofOpenError (path : Path) : OpenError → Failure
  | .nulInPath => .nulInPath
  | .system e => .unreadable ⟨path, if e.fault = .notFound then .missing else .system e⟩

/-- The text of the file at `path`. -/
def readText (fs : FileSystem) (path : Path) : Journal Log.Note Failure (List Char) := do
  let bytes ← .ofExcept ((fs.read path).mapError (Failure.ofOpenError path))
  let cs ← .ofExcept ((Text.Utf8.decode bytes).mapError fun m => .unreadable ⟨path, .malformed m⟩)
  -- only at the very start it is a mark; further on it is text
  let cs ← withoutMark path cs
  return Text.unifyNewlines cs

/-! ### Scanning -/

/-- The fixture whose text is `content`. -/
def ofText (openers : List String) (path? : Option Path) (content : List Char) :
    Journal Log.Note Text.Numeral.Error Fixture := do
  let table ← scanWithNotes openers content
  return ⟨table, openers, path?⟩

/-- The openers for `path` in the catalog `c`. -/
def openersIn (c : Catalog) (path : Path) : Journal Log.Note Failure (List String) :=
  match c.resolution? path with
  | none => throw (.unknownDialect path)
  | some r => do
    .write (r.note path)
    return r.dialect.openers

/-- The fixture in the file at `path`. -/
def ofFile (fs : FileSystem) (c : Catalog) (openers? : Option (List String)) (path : Path) :
    Journal Log.Note Failure Fixture := do
  -- a path without a dialect fails here, before the file system is asked
  let openers ← match openers? with
    | some openers => pure openers
    | none => openersIn c path
  let content ← readText fs path
  (ofText openers (some path) content).mapError .column

/-! ### Access -/

/-- The pragma of a line. -/
def at? (f : Fixture) (line : Int) : Option Pragma := f.table.get? line

/-- The pragmas in the order of their lines. -/
def inOrder (f : Fixture) : List (Int × Pragma) := f.table.inOrder

end Fixture

end FixturePragmas
