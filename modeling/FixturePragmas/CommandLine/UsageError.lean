import FixturePragmas.Text.Quoted

/-!
# Usage errors

What can be wrong with the arguments of the program before a command starts. A name that does not
exist is answered with similar ones, if there are any.
-/

namespace FixturePragmas.CommandLine

/-- A fault in the arguments. -/
inductive UsageError where
  | noSuchOption (name : String) (similar : List String)
  | noSuchCommand (name : String) (similar : List String)
  /-- An option is given a value and takes none. -/
  | valueRefused (option : String)
  /-- An option takes a value and is given none. -/
  | valueMissing (option : String)
  | argumentMissing (name : String)
  | argumentsLeft (arguments : List String)
  /-- The value of an option is none of those it may have. -/
  | notAChoice (option value : String) (choices : List String)
  /-- The value of an option should be a file and is a directory. -/
  | isADirectory (option value : String)
  deriving DecidableEq, Repr

namespace UsageError

/-- The question whether another name was meant. -/
def suggestion (similar : List String) : String :=
  match similar with
  | [] => ""
  | [name] => s!" Did you mean {Text.quoted name}?"
  | names => " (Did you mean one of: " ++ ", ".intercalate (names.map Text.quoted) ++ "?)"

/-- The wording of a fault. -/
def message : UsageError → String
  | noSuchOption name similar => s!"No such option {Text.quoted name}." ++ suggestion similar
  | noSuchCommand name similar => s!"No such command {Text.quoted name}." ++ suggestion similar
  | valueRefused option => s!"Option {Text.quoted option} does not take a value."
  | valueMissing option => s!"Option {Text.quoted option} requires an argument."
  | argumentMissing name => s!"Missing argument '{name}'."
  | argumentsLeft arguments =>
    let noun := if arguments.length = 1 then "argument" else "arguments"
    s!"Got unexpected extra {noun} (" ++ " ".intercalate arguments ++ ")"
  | notAChoice option value choices =>
    s!"Invalid value for '{option}': {Text.quoted value} is not one of "
      ++ ", ".intercalate (choices.map Text.quoted) ++ "."
  | isADirectory option value =>
    s!"Invalid value for '{option}': File {Text.quoted value} is a directory."

end UsageError

end FixturePragmas.CommandLine
