import FixturePragmas.CommandLine.Command
import FixturePragmas.Json.Printer

/-!
# The commands that list dialects and tell the version

The listing shows every dialect in use in alphabetical order, one on a line with its openers and, if
more is asked for, the names and extensions of its files; or all of them as one JSON array.
-/

namespace FixturePragmas

/-- A dialect in JSON. -/
def Dialect.toJson (d : Dialect) : Json :=
  .object
    [("name", .string d.name), ("description", .string d.description),
     ("comment_prefixes", .strings d.openers), ("extensions", .strings d.extensions),
     ("filenames", .strings d.fileNames)]

namespace CommandLine

/-- What a listing is asked to show. -/
structure ListRequest where
  settings? : Option Path := none
  format : Format := .default
  deriving DecidableEq, Repr

namespace ListRequest

/-- The dialects of a catalog in alphabetical order. -/
def dialectsOf (c : Catalog) : List Dialect :=
  c.values.mergeSort fun a b => !decide (b.name < a.name)

/-- The text with blanks behind it up to a width. -/
def padded (width : Nat) (s : String) : List Char :=
  s.toList ++ List.replicate (width - s.length) ' '

/-- The line for a dialect; `width` is the width of the column of names. -/
def dialectLine (ctx : Context) (width : Nat) (d : Dialect) : List Char :=
  let name := ctx.console.styled { bold? := some true } (padded width d.name)
  let rules := d.extensions ++ d.fileNames
  let openers := (" ".intercalate d.openers).toList
  let shown :=
    if ctx.verbosity ≤ 0 ∨ ", ".intercalate rules = "" then ""
    else "  (" ++ ", ".intercalate rules ++ ")"
  [' ', ' '] ++ name ++ [' ', ' '] ++ openers ++ shown.toList

/-- What is written about the dialects. -/
def output (ctx : Context) (r : ListRequest) (ds : List Dialect) : List Terminal.Piece :=
  match r.format with
  | .json => [ctx.console.print ((Json.array (ds.map Dialect.toJson)).render .indented).toList]
  | .default =>
    let width := ds.foldl (fun w d => max w d.name.length) 0
    ctx.console.print "Supported comment dialects:\n".toList
      :: ds.map fun d => ctx.console.print (dialectLine ctx width d)

/-- Run a listing. -/
def run (fs : FileSystem) (ctx : Context) (r : ListRequest) : Run Unit := do
  let settings ← loadSettings fs r.settings?
  Journal.writeAll ((output ctx r (dialectsOf settings.catalogInUse)).map .write)

end ListRequest

/-- The version of the program. -/
def version : String := "0.1.0"

/-- Tell the version. -/
def tellVersion (ctx : Context) (format : Format) : Run Unit :=
  match format with
  | .json =>
    let answer := Json.object [("version", .string version)]
    .write (ctx.console.print (answer.render .line).toList)
  | .default => .write (ctx.console.print version.toList)

end CommandLine

end FixturePragmas
