import FixturePragmas.Dialect.BuiltIn
import FixturePragmas.Dict
import FixturePragmas.Log.Note

/-!
# Catalogs of dialects

A catalog is an ordered map of dialects by name, and finds the dialect of a path. A dialect that
names the file comes before all that only fit its extension; of several that name it the first wins.
Else the longest extension decides, and of equally long ones the first.
-/

namespace FixturePragmas

/-- Dialects by name. -/
abbrev Catalog := Dict String Dialect

/-- How a dialect was found. -/
inductive Resolution where
  | byName (dialect : Dialect)
  | byExtension (dialect : Dialect)
  deriving DecidableEq, Repr

namespace Resolution

/-- The dialect that was found. -/
def dialect : Resolution → Dialect
  | byName d => d
  | byExtension d => d

/-- The note that a path was resolved in this way. -/
def note (path : Path) : Resolution → Log.Note
  | byName d => .dialectByName path d.name
  | byExtension d => .dialectByExtension path d.name

end Resolution

namespace Catalog

/-! ### Making catalogs -/

/-- The catalog of `ds` by name; of several dialects with one name the first is kept. -/
def keepingFirst (ds : List Dialect) : Catalog :=
  ds.foldl (fun c d => if c.contains d.name then c else c.insert d.name d) .empty

/-- The names, once for each dialect, of those that `keepingFirst` leaves out, where the names in
`seen` are taken. -/
def leftOutAfter (seen : List String) : List Dialect → List String
  | [] => []
  | d :: ds =>
    if d.name ∈ seen then d.name :: leftOutAfter seen ds else leftOutAfter (d.name :: seen) ds

/-- The notes on the making of the catalog of `ds`. -/
def keepingFirstNotes (ds : List Dialect) : List Log.Note :=
  (leftOutAfter [] ds).map .duplicateDialect

/-- The catalog of `ds` by name; of several dialects with one name the last is kept, in the place of
the first. -/
def ofDialects (ds : List Dialect) : Catalog := .ofList (ds.map fun d => (d.name, d))

/-- The dialects that need no settings. -/
def builtIn : Catalog := keepingFirst Dialect.builtIn

/-- The built-in dialects with `overlay` over them: a dialect of the overlay takes the place of the
built-in one of its name, and new ones follow. -/
def effective (overlay : Catalog) : Catalog := builtIn.update overlay

/-! ### Finding dialects -/

/-- The extensions, each with its dialect, that decide between `ds` for `path`. -/
def extensionsFor (path : Path) (ds : List Dialect) : List (Dialect × String) :=
  -- every name ends in the empty extension, which says nothing about a file
  (ds.filterMap fun d => (d.matchingExtension? path).map (d, ·)).filter (·.2 ≠ "")

/-- How the dialect of `path` is found. -/
def resolution? (c : Catalog) (path : Path) : Option Resolution :=
  -- names are looked at for all dialects before any extension is
  match c.values.find? (·.matchesName path) with
  | some d => some (.byName d)
  | none =>
    (firstGreatest (·.2.length) (extensionsFor path c.values)).map fun e => .byExtension e.1

/-- The dialect of `path`. -/
def resolve? (c : Catalog) (path : Path) : Option Dialect :=
  (c.resolution? path).map Resolution.dialect

/-- The comment openers for the file at `path`. -/
def openersFor? (c : Catalog) (path : Path) : Option (List String) :=
  (c.resolve? path).map Dialect.openers

end Catalog

end FixturePragmas
