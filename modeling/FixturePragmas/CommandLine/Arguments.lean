import FixturePragmas.CommandLine.UsageError
import FixturePragmas.Text.Similar

/-!
# Options and arguments

How the arguments of a command are told apart. An argument that starts with a dash, and is more than
a dash, holds options: a long one, perhaps with its value behind an equals sign, or several short
ones, the last of which may have its value right behind it. An option that still needs a value takes
the next argument, whatever it looks like. Two dashes alone end the options. Where options and plain
arguments may not be mixed, the first plain argument ends the options too.
-/

namespace FixturePragmas.CommandLine

/-- The form of an option: its long name, its letter if it has one, and whether it takes a value. -/
structure OptionForm where
  long : String
  letter? : Option Char := none
  takesValue : Bool := false
  deriving DecidableEq, Repr

/-- An option that was given, by its long name, with its value if it takes one. -/
structure GivenOption where
  name : String
  value? : Option String := none
  deriving DecidableEq, Repr

/-- The arguments of a command: options in the order given, and the others. -/
structure Arguments where
  options : List GivenOption
  plain : List String
  deriving DecidableEq, Repr

namespace Arguments

/-- What one argument holds: options, and perhaps the name, as written, of one that needs a value.
-/
structure Reading where
  options : List GivenOption
  pending? : Option (String × OptionForm)

/-- The name of an option as it is written with its letter. -/
def letterName (c : Char) : String := String.ofList ['-', c]

/-- Read the letters behind a dash. -/
def readLetters (forms : List OptionForm) : List Char → Except UsageError Reading
  | [] => .ok ⟨[], none⟩
  | c :: cs =>
    match forms.find? (·.letter? = some c) with
    | none => .error (.noSuchOption (letterName c) [])
    | some form =>
      if form.takesValue then
        -- all that follows the letter is its value, even if it looks like more letters
        if cs = [] then .ok ⟨[], some (letterName c, form)⟩
        else .ok ⟨[{ name := form.long, value? := some (String.ofList cs) }], none⟩
      else
        (readLetters forms cs).map fun r => { r with options := { name := form.long } :: r.options }

/-- The part of an argument before the first equals sign, and the one behind it if there is one. -/
def splitValue (cs : List Char) : List Char × Option (List Char) :=
  match cs.dropWhile (· ≠ '=') with
  | [] => (cs, none)
  | _ :: value => (cs.takeWhile (· ≠ '='), some value)

/-- Read an argument that holds options. -/
def readOptions (forms : List OptionForm) (argument : List Char) : Except UsageError Reading :=
  let (name, value?) := splitValue argument
  let name := String.ofList name
  -- long names are tried first, also for an argument with a single dash
  match forms.find? (·.long = name) with
  | some form =>
    match form.takesValue, value? with
    | true, some value => .ok ⟨[{ name := form.long, value? := some (String.ofList value) }], none⟩
    | true, none => .ok ⟨[], some (name, form)⟩
    | false, some _ => .error (.valueRefused name)
    | false, none => .ok ⟨[{ name := form.long }], none⟩
  | none =>
    match argument with
    | '-' :: c :: cs =>
      if c = '-' then .error (.noSuchOption name (Text.suggestions name (forms.map (·.long))))
      else readLetters forms (c :: cs)
    | _ => .ok ⟨[], none⟩

/-- Whether an argument holds options. -/
def holdsOptions : List Char → Bool
  | '-' :: _ :: _ => true
  | _ => false

/-- The arguments with some options before them. -/
def withOptions (os : List GivenOption) (a : Arguments) : Arguments :=
  { a with options := os ++ a.options }

/-- Tell the arguments of a command apart. `mixed` says whether options may follow plain arguments.
-/
def read (forms : List OptionForm) (mixed : Bool) : List String → Except UsageError Arguments
  | [] => .ok ⟨[], []⟩
  | argument :: rest =>
    if argument = "--" then .ok ⟨[], rest⟩
    else if holdsOptions argument.toList then
      match readOptions forms argument.toList with
      | .error e => .error e
      | .ok r =>
        -- a pending option takes the next argument unseen, two dashes included
        match r.pending?, rest with
        | none, rest => (read forms mixed rest).map (withOptions r.options)
        | some (name, _), [] => .error (.valueMissing name)
        | some (_, form), value :: rest' =>
          (read forms mixed rest').map
            (withOptions (r.options ++ [{ name := form.long, value? := some value }]))
    -- where nothing may be mixed, the first plain argument ends the reading
    else if mixed then
      (read forms mixed rest).map fun a => { a with plain := argument :: a.plain }
    else .ok ⟨[], argument :: rest⟩

/-! ### Access -/

/-- How often an option was given. -/
def count (a : Arguments) (name : String) : Nat := (a.options.filter (·.name = name)).length

/-- Whether an option was given. -/
def has (a : Arguments) (name : String) : Bool := a.options.any (·.name = name)

/-- The values given to an option, in order. -/
def values (a : Arguments) (name : String) : List String :=
  (a.options.filter (·.name = name)).filterMap (·.value?)

/-- The value given last to an option. -/
def last? (a : Arguments) (name : String) : Option String := (a.values name).getLast?

/-- The names of the options given, each at its first place. -/
def names (a : Arguments) : List String := (a.options.map (·.name)).eraseDups

end Arguments

end FixturePragmas.CommandLine
