import FixturePragmas.Line
import FixturePragmas.Log.Level
import FixturePragmas.Path

/-!
# Log notes

What this library writes into its log: what was found on a line, where declarations went, which
dialect a path has, where the settings came from. A note has a level, a source, which is the name of
the part of the program it comes from, and a text.

One note is left out, which counts the built-in dialects: it belongs to no run, being written once in
the life of a process, when the dialects are first asked for.
-/

namespace FixturePragmas.Log

/-- One entry of the log. -/
inductive Note where
  /-- A line was classified. -/
  | lineRead (number : Nat) (kind : LineKind)
  /-- A declaration was read. -/
  | declarationRead (code : String) (issues : Nat)
  /-- Declarations were attached to a line, which now has these codes. -/
  | attached (number : Nat) (codes : List String)
  /-- Declarations were left over behind the last line of code. -/
  | dropped (codes : List String)
  /-- A byte order mark was taken off a file. -/
  | byteOrderMark (path : Path)
  /-- A path has a dialect because of its name. -/
  | dialectByName (path : Path) (dialect : String)
  /-- A path has a dialect because of its extension. -/
  | dialectByExtension (path : Path) (dialect : String)
  /-- A dialect was left out because its name is taken. -/
  | duplicateDialect (name : String)
  /-- Settings change these fields of a dialect that is built in. -/
  | builtInOverridden (name : String) (fields : List String)
  /-- There is no file with settings. -/
  | noSettings
  /-- Settings were read from a file. -/
  | settingsLoaded (path : Path)
  /-- A fixture was scanned, and so many of its lines have a pragma. -/
  | scanned (path : Path) (lines : Nat)
  deriving DecidableEq, Repr

namespace Note

/-- How grave a note is. -/
def level : Note → Level
  | lineRead .. => Level.trace
  | declarationRead .. => Level.trace
  | attached .. => Level.debug
  | dropped _ => Level.debug
  | byteOrderMark _ => Level.debug
  | dialectByName .. => Level.trace
  | dialectByExtension .. => Level.trace
  | duplicateDialect _ => Level.warning
  | builtInOverridden .. => Level.debug
  | noSettings => Level.debug
  | settingsLoaded _ => Level.info
  | scanned .. => Level.info

/-- The part of the program that a note comes from. -/
def source : Note → String
  | lineRead .. => "pragmascan.pragma.scanner"
  | declarationRead .. => "pragmascan.pragma.grammar"
  | attached .. => "pragmascan.pragma.scanner"
  | dropped _ => "pragmascan.pragma.scanner"
  | byteOrderMark _ => "pragmascan.reader"
  | dialectByName .. => "pragmascan.dialects.registry"
  | dialectByExtension .. => "pragmascan.dialects.registry"
  | duplicateDialect _ => "pragmascan.dialects.registry"
  | builtInOverridden .. => "pragmascan.config.io"
  | noSettings => "pragmascan.config.io"
  | settingsLoaded _ => "pragmascan.config.io"
  | scanned .. => "pragmascan.cli.commands.scan"

/-- The wording of a note. -/
def text : Note → String
  | lineRead number kind => s!"Line {number}: {kind.name}"
  | declarationRead code issues => s!"Parsed pragma {code} with {issues} issue(s)"
  | attached number codes => s!"Line {number}: attached " ++ ", ".intercalate codes
  | dropped codes =>
    s!"Dropping {codes.length} pragma(s) after the last code line: " ++ ", ".intercalate codes
  | byteOrderMark path => s!"Stripping UTF-8 BOM from {path}"
  | dialectByName path dialect => s!"Path {path} matched dialect {dialect} by filename"
  | dialectByExtension path dialect => s!"Path {path} matched dialect {dialect} by extension"
  | duplicateDialect name => s!"Duplicate dialect name detected: {name} (keeping first)"
  | builtInOverridden name fields =>
    s!"Overriding built-in dialect {name}: {Text.quotedList fields}"
  | noSettings => "No configuration file found; using built-in dialects"
  | settingsLoaded path => s!"Loaded configuration from {path}"
  | scanned path lines => s!"Scanned {path}: {lines} line(s) with pragmas"

end Note

end FixturePragmas.Log
