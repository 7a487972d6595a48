import FixturePragmas.Dict
import FixturePragmas.Text.Blank
import FixturePragmas.Text.Case
import FixturePragmas.Text.Integer

/-!
# Log levels

A level is a number; the higher, the graver. Some levels have names. A level may be asked for in
words or in digits: `Level.read` looks at the text without the white space around it and in
capitals. A text all of whose characters count as digits is taken for a numeral, and then must be
one.
-/

namespace FixturePragmas.Log

/-- The gravity of a log entry. -/
abbrev Level := Int

namespace Level

/-- The level of entries about single lines and declarations. -/
def trace : Level := 5

def debug : Level := 10

def info : Level := 20

def warning : Level := 30

def error : Level := 40

def critical : Level := 50

/-- The names under which levels are shown. -/
def names : List (Level × String) :=
  [(0, "NOTSET"), (trace, "TRACE"), (debug, "DEBUG"), (info, "INFO"), (warning, "WARNING"),
   (error, "ERROR"), (critical, "CRITICAL")]

/-- The words by which a level is asked for. -/
def words : List (String × Level) :=
  [("TRACE", trace), ("DEBUG", debug), ("INFO", info), ("WARNING", warning), ("WARN", warning),
   ("ERROR", error), ("CRITICAL", critical), ("FATAL", critical), ("NOTSET", 0)]

/-- The name of a level; levels without one are numbered. -/
def name (l : Level) : String := (names.lookup l).getD s!"Level {l}"

/-- The level that `cs` asks for: none, if it is no word for a level and not made of digits. -/
def read (cs : List Char) : Except Text.Numeral.Error (Option Level) :=
  let word := Text.upper (Text.trim cs)
  -- digits without a decimal value get here as well, and are refused as numerals
  if word ≠ [] ∧ word.all Text.isDigitLike then
    (Text.Numeral.read word (Text.Integer.shown word)).map fun n => some (n : Int)
  else .ok (words.lookup (String.ofList word))

/-- The level that the environment asks for, where the variable may be unset or empty. -/
def ofEnvironment (setting : Option String) : Except Text.Numeral.Error (Option Level) :=
  match setting with
  | none => .ok none
  | some text => if text = "" then .ok none else read text.toList

end Level

end FixturePragmas.Log
