import FixturePragmas.CommandLine.Command
import FixturePragmas.Json.Printer

/-!
# The command that scans fixtures

Every path is scanned under the openers given or under those of its dialect. A path without a
dialect is skipped, and that all are skipped is a failure; a file that cannot be read is a failure
at once. Only when all is scanned anything is written to the output: each pragma on a line of its
own behind its place, or one JSON object that maps paths to lines to codes.
-/

namespace FixturePragmas

/-- An issue in JSON. -/
def Issue.toJson (i : Issue) : Json :=
  .object [("column", .integer i.column), ("message", .string i.message)]

/-- A pragma in JSON: its issues by code. -/
def Pragma.toJson (p : Pragma) : Json :=
  .object (p.declarations.map fun d => (d.code, .array (d.issues.map Issue.toJson)))

/-- A fixture in JSON: its pragmas by line, in the order of the lines. -/
def Fixture.toJson (f : Fixture) : Json :=
  .object (f.inOrder.map fun e => (String.ofList (Text.Numeral.ofInt e.1), e.2.toJson))

namespace CommandLine

/-- What a scan is asked to do. No openers means that they are looked up. -/
structure ScanRequest where
  paths : List Path
  openers : List String := []
  settings? : Option Path := none
  format : Format := .default
  deriving DecidableEq, Repr

namespace ScanRequest

/-- The openers, if there are any. -/
def openers? (r : ScanRequest) : Option (List String) :=
  if r.openers = [] then none else some r.openers

/-- What became of one path. -/
inductive Outcome where
  | scanned (f : Fixture)
  | skipped (path : Path)

/-- Scan the fixture at `path`, or skip it. -/
def scanPath (fs : FileSystem) (ctx : Context) (catalog : Catalog) (r : ScanRequest) (path : Path) :
    Run Outcome := do
  let attempt : Run (Except Fixture.Failure Fixture) :=
    ((Fixture.ofFile fs catalog r.openers? path).mapEntries .log).attempt
  match ← attempt with
  | .ok f =>
    .log (.scanned path f.table.size)
    return .scanned f
  | .error (.unknownDialect _) =>
    -- only the warning depends on the verbosity; the path is skipped in any case
    if 0 ≤ ctx.verbosity then
      let reason := Fixture.unknownDialectMessage path
      .write (ctx.console.warn s!"Skipping {path}: {reason}".toList)
    return .skipped path
  | .error (.unreadable e) => .fail (.ofReadError e)
  | .error .nulInPath => .fault .nulInPath
  | .error (.column e) => .fault (.numeral e)

/-- The fixtures that were scanned. -/
def fixtures (os : List Outcome) : List Fixture :=
  os.filterMap fun
    | .scanned f => some f
    | .skipped _ => none

/-- The paths that were skipped. -/
def skippedPaths (os : List Outcome) : List Path :=
  os.filterMap fun
    | .scanned _ => none
    | .skipped p => some p

/-- The path of a fixture as it is shown. -/
def pathText (f : Fixture) : String := (f.path?.map Path.toString).getD ""

/-- The line of output for the pragma of a line. -/
def pragmaLine (c : Terminal.Console) (f : Fixture) (line : Int) (p : Pragma) : List Char :=
  let place := (pathText f).toList ++ ':' :: Text.Numeral.ofInt line ++ [':']
  c.styled { bold? := some true } place ++ ' ' :: p.render

/-- What is written about a fixture. -/
def report (ctx : Context) (f : Fixture) : List Terminal.Piece :=
  let c := ctx.console
  -- with this line the path itself comes into the output of a fixture without pragmas
  let none? := f.table.isEmpty && decide (0 < ctx.verbosity)
  let nothing := c.styled { dim? := some true } ((pathText f).toList ++ ": no pragmas".toList)
  (if none? then [c.print nothing] else [])
    ++ f.inOrder.map fun e => c.print (pragmaLine c f e.1 e.2)

/-- Several fixtures in JSON, by path. -/
def jsonOf (fs : List Fixture) : Json :=
  .object (Dict.ofList (fs.map fun f => (pathText f, f.toJson))).toList

/-- What is written about the fixtures. -/
def output (ctx : Context) (r : ScanRequest) (fs : List Fixture) : List Terminal.Piece :=
  match r.format with
  | .json => [ctx.console.print ((jsonOf fs).render .indented).toList]
  | .default => fs.flatMap (report ctx)

/-- Run a scan. -/
def run (fs : FileSystem) (ctx : Context) (r : ScanRequest) : Run Unit := do
  let settings ← loadSettings fs r.settings?
  -- all paths are scanned before the first piece is written
  let os ← r.paths.mapM (scanPath fs ctx settings.catalogInUse r)
  if fixtures os = [] ∧ skippedPaths os ≠ [] then
    let names := (skippedPaths os).map Path.toString
    .fail ⟨.unsupportedFileType, "No comment dialect known for: " ++ ", ".intercalate names⟩
  Journal.writeAll ((output ctx r (fixtures os)).map .write)

end ScanRequest

end CommandLine

end FixturePragmas
