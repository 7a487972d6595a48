import FixturePragmas.CommandLine.Arguments
import FixturePragmas.CommandLine.Listing
import FixturePragmas.CommandLine.Scan

/-!
# The program

The program takes its own options first, then the name of a command, and leaves the rest to the
command. The name must exist before anything is done; then verbosity, log and console are settled;
then the command reads its arguments and runs. A run is summed up in a transcript: what was written
to the two streams, and how it ended.

Options of a command are checked in the order in which they were first given, the paths behind them;
asking for help comes before all checks, but not before the arguments are told apart.
-/

namespace FixturePragmas.CommandLine

/-! ### The options -/

def verboseForm : OptionForm := { long := "--verbose", letter? := some 'v' }

def quietForm : OptionForm := { long := "--quiet", letter? := some 'q' }

def noColourForm : OptionForm := { long := "--no-color" }

def openerForm : OptionForm := { long := "--prefix", letter? := some 'p', takesValue := true }

def settingsForm : OptionForm := { long := "--config", takesValue := true }

def formatForm : OptionForm := { long := "--format", takesValue := true }

/-- The option for help, as a word only or with a letter too. -/
def helpForm (letter : Bool) : OptionForm :=
  { long := "--help", letter? := if letter then some 'h' else none }

/-- The options of the program itself. -/
def programForms : List OptionForm := [verboseForm, quietForm, noColourForm, helpForm true]

/-! ### The commands -/

/-- The commands. -/
inductive CommandName where
  | scan
  | dialects
  | version
  deriving DecidableEq, Repr

namespace CommandName

/-- All commands. -/
def all : List CommandName := [scan, dialects, version]

/-- The word for a command. -/
def text : CommandName → String
  | scan => "scan"
  | dialects => "dialects"
  | version => "version"

/-- The command a word stands for. -/
def ofText? (s : String) : Option CommandName := all.find? (·.text = s)

/-- The options of a command, apart from the one for help. -/
def forms : CommandName → List OptionForm
  | scan => [openerForm, settingsForm, formatForm]
  | dialects => [settingsForm, formatForm]
  | version => [formatForm]

/-- What follows the name of a command in its usage. -/
def operands : CommandName → String
  | scan => "[OPTIONS] PATHS..."
  | dialects => "[OPTIONS]"
  | version => "[OPTIONS]"

/-- What a command does. -/
def purpose : CommandName → String
  | scan => "Extract expected-issue pragmas from fixture files."
  | dialects => "List supported comment dialects."
  | version => "Show the current version of PragmaScan."

end CommandName

/-! ### Help -/

/-- How the program is called. -/
def programUsage : String := "Usage: pragmascan [OPTIONS] COMMAND [ARGS]..."

/-- How a command is called. -/
def CommandName.usage (n : CommandName) : String := s!"Usage: pragmascan {n.text} {n.operands}"

/-- The option as help shows it. -/
def OptionForm.summary (f : OptionForm) : String :=
  let letter := (f.letter?.map fun c => s!"{Arguments.letterName c}, ").getD ""
  s!"  {letter}{f.long}"

/-- The help of the program. -/
def programHelp : String :=
  "\n".intercalate
    ([programUsage, "", "  PragmaScan: extract expected-issue pragmas from lint test fixtures.", "",
      "Options:"]
      ++ programForms.map OptionForm.summary
      ++ ["", "Commands:"]
      ++ CommandName.all.map fun n => s!"  {n.text}  {n.purpose}")

/-- The help of a command. -/
def CommandName.help (n : CommandName) : String :=
  "\n".intercalate
    ([n.usage, "", s!"  {n.purpose}", "", "Options:"]
      ++ (n.forms ++ [helpForm true]).map OptionForm.summary)

/-- Show help and stop. -/
def showHelp {α : Type} (c : Terminal.Console) (text : String) : Run α := do
  .write (c.print text.toList)
  throw .helped

/-! ### Checking arguments -/

/-- Stop if the text of a path has a NUL in it. -/
def checkPathText (s : String) : Run Unit :=
  if Char.ofNat 0 ∈ s.toList then .fault .nulInPath else pure ()

/-- Stop if a file of settings is named that is a directory. An empty name is none. The name is
looked up as it is written, so nothing is found out about one that is too long. -/
def checkSettingsFile (fs : FileSystem) (n : CommandName) (s : String) : Run Unit := do
  checkPathText s
  if s ≠ "" ∧ !Path.isTooLong s ∧ fs.isDirectory (Path.ofString s) then
    .misuse n.usage (.isADirectory settingsForm.long s)

/-- Stop if there is no format of this name. -/
def checkFormat (n : CommandName) (s : String) : Run Unit :=
  match Format.ofName? s with
  | some _ => pure ()
  | none => .misuse n.usage (.notAChoice formatForm.long s (Format.all.map Format.name))

/-- Check the value last given to an option. -/
def checkOption (fs : FileSystem) (n : CommandName) (a : Arguments) (name : String) : Run Unit :=
  match a.last? name with
  | none => pure ()
  | some value =>
    if name = settingsForm.long then checkSettingsFile fs n value
    else if name = formatForm.long then checkFormat n value
    else pure ()

/-- Check the plain arguments of a command: paths, at least one, or nothing. -/
def checkPlain (n : CommandName) (plain : List String) : Run Unit :=
  match n with
  | .scan =>
    if plain = [] then .misuse n.usage (.argumentMissing "PATHS...") else plain.forM checkPathText
  | _ => if plain = [] then pure () else .misuse n.usage (.argumentsLeft plain)

/-- The format that is asked for. -/
def formatOf (a : Arguments) : Format :=
  ((a.last? formatForm.long).bind Format.ofName?).getD .default

/-- The file of settings that is named. -/
def settingsOf (a : Arguments) : Option Path := (a.last? settingsForm.long).map Path.ofString

/-- Run a command whose arguments were told apart. -/
def CommandName.runWith (fs : FileSystem) (ctx : Context) (a : Arguments) : CommandName → Run Unit
  | scan =>
    ScanRequest.run fs ctx
      { paths := a.plain.map Path.ofString, openers := a.values openerForm.long,
        settings? := settingsOf a, format := formatOf a }
  | dialects => ListRequest.run fs ctx { settings? := settingsOf a, format := formatOf a }
  | version => tellVersion ctx (formatOf a)

/-- Run a command with the arguments `args`. `helpLetter` says whether help has a letter. -/
def CommandName.run (fs : FileSystem) (ctx : Context) (helpLetter : Bool) (args : List String)
    (n : CommandName) : Run Unit := do
  let help := helpForm helpLetter
  let a ← .ofExcept ((Arguments.read (n.forms ++ [help]) true args).mapError (.misused n.usage))
  -- help comes before the checks, so that it is shown for arguments that would be refused
  if a.has help.long then
    showHelp ctx.console n.help
  -- options in the order in which they were given, then what is left
  a.names.forM (checkOption fs n a)
  checkPlain n a.plain
  n.runWith fs ctx a

/-! ### The whole program -/

/-- Where the program runs: its files, what the environment says about the log, and whether the
output and the errors go to a terminal. -/
structure Environment where
  files : FileSystem
  logSetting? : Option String
  terminal : Bool := false
  errorTerminal : Bool := false

/-- Tell the program's own arguments apart, and show its help if that is asked for. -/
def readProgramArguments (env : Environment) (args : List String) : Run Arguments := do
  let a ← .ofExcept ((Arguments.read programForms false args).mapError (.misused programUsage))
  if a.has (helpForm true).long then
    showHelp ⟨env.terminal⟩ programHelp
  return a

/-- The command that is named by the first of the arguments. A name that is none may be an option of
the program behind two dashes; so the arguments are told apart once more before it is refused. -/
def chooseCommand (env : Environment) (args : List String) :
    Run (Option (CommandName × List String)) :=
  match args with
  | [] => return none
  | name :: rest =>
    match CommandName.ofText? name with
    | some n => return some (n, rest)
    | none => do
      let _ ← readProgramArguments env args
      .misuse programUsage
        (.noSuchCommand name (Text.suggestions name (CommandName.all.map CommandName.text)))

/-- Settle verbosity and console from the arguments of the program. There is colour on a terminal
only, and not if it is declined. -/
def contextOf (env : Environment) (a : Arguments) : Except Failure Context :=
  (verbosityOf (a.count verboseForm.long) (a.count quietForm.long)).map fun v =>
    { console? := some ⟨env.terminal && !a.has noColourForm.long⟩, verbosity? := some v }

/-- The logger of the program, or the fault in the setting for it. -/
def loggerOf (env : Environment) : Except Text.Numeral.Error Log.Logger := do
  let level? ← Log.Level.ofEnvironment env.logSetting?
  -- a level that was read is given on, level zero too: the logger does not look again then
  Log.Logger.initial.setup env.logSetting? level?

/-- What is said when no command is named. -/
def hint : String := "Hint: use 'pragmascan scan [PATHS...]' to list fixture pragmas."

/-- Settle what comes before the work: the command, if one is named, and its context. -/
def settle (env : Environment) (args : List String) :
    Run (Option (CommandName × List String) × Context) := do
  let a ← readProgramArguments env args
  let command? ← chooseCommand env a.plain
  let ctx ← .ofExcept ((contextOf env a).mapError .failed)
  return (command?, ctx)

/-- The whole program with the arguments `args`. -/
def program (env : Environment) (args : List String) : Run Unit := do
  let (command?, ctx) ← settle env args
  -- every command needs the log, so a setting that cannot be read stops all of them
  let _ ← .ofExcept ((loggerOf env).mapError fun e => .faulted (.numeral e))
  match command? with
  | some (n, rest) => n.run env.files ctx true rest
  | none =>
    Journal.writeAll
      ([hint, "", programHelp].map fun s => .write (ctx.console.print s.toList))

/-! ### Transcripts -/

/-- How a run ended. -/
inductive Ending where
  | exited (code : Nat)
  | faulted (f : Fault)
  deriving DecidableEq, Repr

/-- What a run wrote to the two streams, and how it ended. -/
structure Transcript where
  output : List Char
  errors : List Char
  ending : Ending
  deriving DecidableEq, Repr

/-- How a run ends that ended well or stopped. -/
def endingOf : Except Stop Unit → Ending
  | .ok () => .exited exitSuccess
  | .error .helped => .exited exitSuccess
  | .error (.misused ..) => .exited exitMisuse
  | .error (.failed f) => .exited f.kind.exitCode
  | .error (.faulted f) => .faulted f

/-- What is written at the end of a run that stopped, in colour or not. -/
def lastWords (outcome : Except Stop Unit) (colour : Bool := false) : List Char :=
  match outcome with
  | .error (.misused usage e) => usage.toList ++ '\n' :: '\n' :: errorLine e.message colour
  | .error (.failed f) => errorLine f.message colour
  | _ => []

/-- What an event writes to the output. -/
def Event.output : Event → List Char
  | write p => if p.stream = .output then p.text else []
  | log _ => []

/-- What an event writes to the stream of errors, where the log goes too. -/
def Event.errors (g : Log.Logger) : Event → List Char
  | write p => if p.stream = .errors then p.text else []
  | log n => g.lines n.record

/-- The transcript of a run whose log goes through `g` and whose last words are in colour or not. -/
def transcript (g : Log.Logger) (r : Run Unit) (colour : Bool := false) : Transcript where
  output := r.entries.flatMap Event.output
  errors := r.entries.flatMap (Event.errors g) ++ lastWords r.outcome colour
  ending := endingOf r.outcome

/-- Whether the last words of the program are in colour: as on its console, once there is one, and
before that if the errors go to a terminal. -/
def Environment.errorsInColour (env : Environment) (args : List String) : Bool :=
  match (settle env args).outcome with
  | .ok (_, ctx) => ctx.console.colour
  | .error _ => env.errorTerminal

/-- The transcript of the program. -/
def Environment.run (env : Environment) (args : List String) : Transcript :=
  let g :=
    match loggerOf env with
    | .ok g => g
    | .error _ => Log.Logger.initial
  transcript g (program env args) (env.errorsInColour args)

/-- The transcript of one command that is run by itself, with a context of its own, where the errors
do not go to a terminal. -/
def CommandName.runAlone (fs : FileSystem) (ctx : Context) (args : List String) (n : CommandName) :
    Transcript :=
  transcript Log.Logger.initial (n.run fs ctx false args)

end FixturePragmas.CommandLine
