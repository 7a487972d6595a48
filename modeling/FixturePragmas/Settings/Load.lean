import FixturePragmas.Settings
import FixturePragmas.Text.Lines
import FixturePragmas.Text.Utf8
import FixturePragmas.Toml.Document

/-!
# Loading settings

Settings come from a file that is named, or else from the first of two that a directory holds: one
of their own, or one that is shared with other tools and has a section for them. Of a shared file
only the section counts. The faults that settings can have are reported as such; a file that is not
UTF-8, tables that clash, a path with a NUL in it and a name that is too long are not.
-/

namespace FixturePragmas.Settings

/-- Why no settings can be loaded. -/
inductive LoadFault where
  /-- Something is wrong with the settings. -/
  | settings (e : Error)
  /-- The file is not UTF-8. -/
  | malformed (m : Text.Utf8.Malformed)
  /-- The tables in the file contradict each other. -/
  | clash (c : Toml.Clash)
  /-- The file system does not tell whether there is a file. -/
  | system (e : FileError)
  /-- No file can have this path, which has a NUL in it. -/
  | nulInPath
  deriving DecidableEq, Repr

/-- The name of a file of settings. -/
def ownFileName : String := "pragmascan.toml"

/-- The name of a file that is shared with other tools. -/
def sharedFileName : String := "pyproject.toml"

/-- The table of a shared file that holds the sections. -/
def sectionsKey : String := "tool"

/-- The document in the file at `path`. -/
def readDocument (fs : FileSystem) (path : Path) : Except LoadFault Toml.Table := do
  let bytes ← (fs.read path).mapError fun
    | .nulInPath => .nulInPath
    | .system e => .settings (.unreadable e)
  let cs ← (Text.Utf8.decode bytes).mapError .malformed
  (Toml.parse (Text.unifyNewlines cs)).mapError fun
    | .malformed => .settings (.invalidToml path)
    | .clash c => .clash c

/-- What a shared file holds for this program: nothing, if it has no table of sections or no section
of this name. -/
def section? (t : Toml.Table) : Option Toml.Value :=
  match t.lookup sectionsKey with
  | some (.table sections) => sections.lookup sectionName
  | _ => none

/-- The file of settings in the directory `dir`. -/
def discover (fs : FileSystem) (dir : Path) : Except LoadFault (Option Path) := do
  let own := dir.join ownFileName
  if ← (fs.isFile own).mapError .system then
    return some own
  let shared := dir.join sharedFileName
  if ← (fs.isFile shared).mapError .system then
    -- a shared file without the section is passed over; one that cannot be read is a fault
    if (section? (← readDocument fs shared)).isSome then
      return some shared
  return none

/-- The table of settings in a document that was read from `path`. -/
def tableIn (path : Path) (t : Toml.Table) : Except Error Toml.Table :=
  -- the name alone tells whether a file is shared, also where it was named by the caller
  if path.name = sharedFileName then
    match section? t with
    | none => .ok []
    | some (.table s) => .ok s
    | some _ => .error .sectionNotATable
  else .ok t

/-- The settings in the file at `path`. -/
def ofFile (fs : FileSystem) (path : Path) : Journal Log.Note LoadFault Settings := do
  let document ← .ofExcept (readDocument fs path)
  let t ← .ofExcept ((tableIn path document).mapError .settings)
  .write (.settingsLoaded path)
  (ofTable (some path) t).mapError .settings

/-- The settings in the file at `path?`, or, if no file is named, those found in the directory
`dir`; if there is none either, the settings that declare nothing. -/
def load (fs : FileSystem) (path? : Option Path) (dir : Path) :
    Journal Log.Note LoadFault Settings := do
  let found? ← match path? with
    | some path => pure (some path)
    | none => .ofExcept (discover fs dir)
  match found? with
  | some path => ofFile fs path
  | none =>
    .write .noSettings
    return default

end FixturePragmas.Settings
