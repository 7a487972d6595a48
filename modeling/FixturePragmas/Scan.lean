import FixturePragmas.Declaration.Written
import FixturePragmas.Journal
import FixturePragmas.Line
import FixturePragmas.Log.Note
import FixturePragmas.Pragma
import FixturePragmas.Text.Lines

/-!
# Scanning

Declarations in a comment belong to a line of code. Those at the end of a line of code belong to
that line; those in a line that is nothing but a comment wait for the next line of code, which takes
all that wait before its own. What still waits at the end of the text is dropped.

A scan first reads each line by itself, then hands out the declarations (`attachments`, `leftOver`),
and the table of pragmas comes from the result. `notes` is what a scan that gives a table writes into
the log, `scanWithNotes` the scan that writes while it goes on.
-/

namespace FixturePragmas

/-- The pragmas of a text by the number of their line, the first line being 1. -/
abbrev Table := Dict Int Pragma

/-- A line as the scan sees it. -/
structure ReadLine where
  kind : LineKind
  declarations : List Declaration
  deriving DecidableEq, Repr

namespace ReadLine

/-- Read the line `cs` under the openers `openers`. -/
def ofLine (openers : List String) (cs : List Char) : Except Text.Numeral.Error ReadLine :=
  let line := Line.classify openers cs
  (Declaration.ofComment line.comment).map fun ds => ⟨line.kind, ds⟩

/-- Whether a line is nothing but a comment. -/
def isComment (l : ReadLine) : Bool := decide (l.kind = .commentOnly)

/-- The lines of a text. -/
def ofText (openers : List String) (content : List Char) :
    Except Text.Numeral.Error (List ReadLine) :=
  (Text.lines content).mapM (ofLine openers)

end ReadLine

namespace Scan

/-- The declarations that lines of code take, with the numbers of these lines. The first line has
the number `n`, and `waiting` are declarations from comments above it. -/
def attachments (n : Nat) (waiting : List Declaration) :
    List ReadLine → List (Nat × List Declaration)
  | [] => []
  | l :: ls =>
    let ds := waiting ++ l.declarations
    -- a comment on a line of its own only hands on what it declares
    if l.isComment then attachments (n + 1) ds ls
    -- code without declarations gets no entry
    else if ds = [] then attachments (n + 1) [] ls
    else (n, ds) :: attachments (n + 1) [] ls

/-- The declarations that no line of code takes. -/
def leftOver (waiting : List Declaration) : List ReadLine → List Declaration
  | [] => waiting
  | l :: ls => if l.isComment then leftOver (waiting ++ l.declarations) ls else leftOver [] ls

/-- The table of the lines `ls`. -/
def tableOf (ls : List ReadLine) : Table :=
  .ofList ((attachments 1 [] ls).map fun a => ((a.1 : Int), Pragma.ofDeclarations a.2))

/-- The note that a declaration was read. -/
def declarationNote (d : Declaration) : Log.Note := .declarationRead d.code d.issues.length

/-- The notes on the lines `ls`, the first of which has the number `n`. -/
def notesFrom (n : Nat) (waiting : List Declaration) : List ReadLine → List Log.Note
  | [] => if waiting = [] then [] else [.dropped (waiting.map (·.code))]
  | l :: ls =>
    let ds := waiting ++ l.declarations
    let seen := .lineRead n l.kind :: l.declarations.map declarationNote
    if l.isComment then seen ++ notesFrom (n + 1) ds ls
    else if ds = [] then seen ++ notesFrom (n + 1) [] ls
    else seen ++ .attached n (Pragma.ofDeclarations ds).codes :: notesFrom (n + 1) [] ls

/-- All notes on a scan of the lines `ls`. -/
def notes (ls : List ReadLine) : List Log.Note := notesFrom 1 [] ls

end Scan

/-- The table of a text under the openers `openers`. -/
def scan (openers : List String) (content : List Char) : Except Text.Numeral.Error Table :=
  (ReadLine.ofText openers content).map Scan.tableOf

/-! ### Scanning with notes

The notes are written while the scan goes on. So a scan that fails at a column has noted what it read
before: all lines above, the line itself, and the declarations in front of the one with the column.
-/

namespace Scan

/-- Read the declarations of a comment, with a note on each that can be read. -/
def commentWithNotes (cs : List Char) :
    Journal Log.Note Text.Numeral.Error (List Declaration) :=
  (Declaration.Written.all cs).mapM fun w => do
    let d ← .ofExcept w.declaration?
    .write (declarationNote d)
    return d

/-- Read the line `cs`, which has the number `n`, with notes on it. -/
def lineWithNotes (openers : List String) (n : Nat) (cs : List Char) :
    Journal Log.Note Text.Numeral.Error ReadLine := do
  let line := Line.classify openers cs
  -- the line is noted first, before its comment is read and may turn out to be unreadable
  .write (.lineRead n line.kind)
  let ds ← commentWithNotes line.comment
  return ⟨line.kind, ds⟩

/-- The notes on what the line `l` with the number `n` does with the declarations `ds`. -/
def notesOnTaking (n : Nat) (l : ReadLine) (ds : List Declaration) : List Log.Note :=
  if l.isComment ∨ ds = [] then [] else [.attached n (Pragma.ofDeclarations ds).codes]

/-- Read lines, with notes on them and on what becomes of the declarations. -/
def linesWithNotes (openers : List String) (n : Nat) (waiting : List Declaration) :
    List (List Char) → Journal Log.Note Text.Numeral.Error (List ReadLine)
  | [] => do
    .writeAll (notesFrom n waiting [])
    return []
  | cs :: rest => do
    let l ← lineWithNotes openers n cs
    let ds := waiting ++ l.declarations
    .writeAll (notesOnTaking n l ds)
    -- a line of code has taken all that waited
    let ls ← linesWithNotes openers (n + 1) (if l.isComment then ds else []) rest
    return l :: ls

end Scan

/-- The table of a text, with the notes on the scan. -/
def scanWithNotes (openers : List String) (content : List Char) :
    Journal Log.Note Text.Numeral.Error Table := do
  let ls ← Scan.linesWithNotes openers 1 [] (Text.lines content)
  return Scan.tableOf ls

/-- The pragmas of a table in the order of their lines. -/
def Table.inOrder (t : Table) : List (Int × Pragma) :=
  t.toList.mergeSort fun a b => decide (a.1 ≤ b.1)

end FixturePragmas
