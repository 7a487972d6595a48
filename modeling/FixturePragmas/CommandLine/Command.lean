import FixturePragmas.CommandLine.Failure
import FixturePragmas.CommandLine.UsageError
import FixturePragmas.Log.Logger
import FixturePragmas.Settings.Load

/-!
# Commands

A command leaves a journal of what it wrote to the console and to the log, in order, and either ends
well or stops. It stops because help was asked for, because of its arguments, because of a failure
that it reports, or because of a fault for which it has no message.
-/

namespace FixturePragmas.CommandLine

/-- What a command does while it runs. -/
inductive Event where
  | write (p : Terminal.Piece)
  | log (n : Log.Note)
  deriving DecidableEq, Repr

/-- A fault that no command reports. -/
inductive Fault where
  /-- A numeral cannot be read. -/
  | numeral (e : Text.Numeral.Error)
  /-- Settings are not UTF-8. -/
  | malformed (m : Text.Utf8.Malformed)
  /-- The tables in settings contradict each other. -/
  | clash (c : Toml.Clash)
  /-- The file system does not tell whether there is a file. -/
  | system (e : FileError)
  /-- A path has a NUL in it. -/
  | nulInPath
  deriving DecidableEq, Repr

/-- Why a command stops before its end. -/
inductive Stop where
  /-- Help was asked for and shown. -/
  | helped
  /-- The arguments make no sense for a command that is called in this way. -/
  | misused (usage : String) (e : UsageError)
  | failed (f : Failure)
  | faulted (f : Fault)
  deriving DecidableEq, Repr

/-- A run of a command. -/
abbrev Run (α : Type) := Journal Event Stop α

namespace Run

/-- Write to the console. -/
def write (p : Terminal.Piece) : Run Unit := Journal.write (.write p)

/-- Write a note into the log. -/
def log (n : Log.Note) : Run Unit := Journal.write (.log n)

/-- A step that writes notes only, with its faults read as reasons to stop. -/
def ofNotes {ε α : Type} (stop : ε → Stop) (x : Journal Log.Note ε α) : Run α :=
  (x.mapEntries .log).mapError stop

/-- Stop because of the arguments. -/
def misuse {α : Type} (usage : String) (e : UsageError) : Run α := throw (.misused usage e)

/-- Stop with a failure. -/
def fail {α : Type} (f : Failure) : Run α := throw (.failed f)

/-- Stop at a fault. -/
def fault {α : Type} (f : Fault) : Run α := throw (.faulted f)

end Run

/-! ### The context of a command -/

/-- What the program has settled before a command runs; what it has not settled is left out. -/
structure Context where
  console? : Option Terminal.Console := none
  verbosity? : Option Int := none
  deriving DecidableEq, Repr

namespace Context

/-- The verbosity: negative to be quiet, positive to say more. -/
def verbosity (c : Context) : Int := c.verbosity?.getD 0

/-- The console, and the context in which it is settled. If none was, it is one in colour. -/
def getConsole (c : Context) : Terminal.Console × Context :=
  let console := c.console?.getD ⟨true⟩
  (console, { c with console? := some console })

/-- The console. -/
def console (c : Context) : Terminal.Console := c.getConsole.1

end Context

/-- The verbosity that is asked for by counts of the options for more and for less of it. -/
def verbosityOf (verbose quiet : Int) : Except Failure Int :=
  if 0 < verbose ∧ 0 < quiet then
    .error ⟨.usage, "The '--verbose' and '--quiet' options are mutually exclusive."⟩
  else if 0 < quiet then .ok (-1)
  else .ok verbose

/-! ### Output formats and settings -/

/-- The two formats of output. -/
inductive Format where
  | default
  | json
  deriving DecidableEq, Repr

/-- The word for a format. -/
def Format.name : Format → String
  | default => "default"
  | json => "json"

/-- All formats. -/
def Format.all : List Format := [.default, .json]

/-- The format a word stands for. -/
def Format.ofName? (s : String) : Option Format := Format.all.find? (·.name = s)

/-- How faults in loading settings stop a command. -/
def stopOfLoadFault : Settings.LoadFault → Stop
  | .settings e => .failed ⟨.settings, e.message⟩
  | .malformed m => .faulted (.malformed m)
  | .clash c => .faulted (.clash c)
  | .system e => .faulted (.system e)
  | .nulInPath => .faulted .nulInPath

/-- The settings in the file that is named, or in the working directory. -/
def loadSettings (fs : FileSystem) (path? : Option Path) : Run Settings :=
  .ofNotes stopOfLoadFault (Settings.load fs path? fs.workingDirectory)

end FixturePragmas.CommandLine
