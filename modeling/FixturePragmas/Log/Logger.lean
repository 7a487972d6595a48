import FixturePragmas.Log.Record

/-!
# The logger

The logger lets records through from a level on, if their own level is above zero, and shows each
once for every handler it has. Without handlers it shows the bare messages of warnings and graver
records.

Setting it up is done in steps: the level is found, the logger takes it, its handlers are taken away
one by one, and a new one is put in, whose layout goes with the level. The level is given, or is the
one the environment asks for; if it asks for none, or for level zero, only critical records are let
through. The setting in the environment may be one that cannot be read.
-/

namespace FixturePragmas.Log

/-- A logger: the level from which on it lets records through, and the layouts of its handlers. -/
structure Logger where
  level : Level
  handlers : List Layout
  deriving DecidableEq, Repr

namespace Logger

/-- The logger before it is set up. -/
def initial : Logger := ⟨Level.warning, []⟩

/-- The logger that starts at a level. -/
def startingAt (l : Level) : Logger := ⟨l, [Layout.ofLevel l]⟩

/-! ### Setting up -/

/-- The level to start at, when `level?` is given and the environment holds `setting`. -/
def startingLevel (setting : Option String) (level? : Option Level) :
    Except Text.Numeral.Error Level :=
  match level? with
  | some l => .ok l
  | none =>
    (Level.ofEnvironment setting).map fun
      | some l => if l = 0 then Level.critical else l
      | none => Level.critical

/-- The logger at another level. -/
def withLevel (l : Level) (g : Logger) : Logger := { g with level := l }

/-- The logger without a handler that it had. -/
def without (h : Layout) (g : Logger) : Logger := { g with handlers := g.handlers.erase h }

/-- The logger with one more handler. -/
def adding (h : Layout) (g : Logger) : Logger := { g with handlers := g.handlers ++ [h] }

/-- The steps of setting up. What is done to the logger before a fault stays done. -/
def settingUp (setting : Option String) (level? : Option Level) :
    EStateM Text.Numeral.Error Logger Unit := do
  let l ← ofExcept (startingLevel setting level?)
  modify (withLevel l)
  (← get).handlers.forM fun h => modify (without h)
  modify (adding (Layout.ofLevel l))

/-- The logger after an attempt to set it up, and the fault if it failed. -/
def afterSetup (setting : Option String) (level? : Option Level) (g : Logger) :
    Logger × Option Text.Numeral.Error :=
  match (settingUp setting level?).run g with
  | .ok () g' => (g', none)
  | .error e g' => (g', some e)

/-- What setting up makes of a logger: another logger, or a fault. -/
def setup (setting : Option String) (level? : Option Level) (g : Logger) :
    Except Text.Numeral.Error Logger :=
  match g.afterSetup setting level? with
  | (g', none) => .ok g'
  | (_, some e) => .error e

/-! ### Showing records -/

/-- Whether a record of this level is let through. -/
def lets (g : Logger) (l : Level) : Bool := decide (0 < l ∧ g.level ≤ l)

/-- What is shown of a record, if it is let through: a line for each handler, or the bare message
where there is none and the record is grave enough. -/
def lines (g : Logger) (r : Record) : List Char :=
  if g.lets r.level then
    match g.handlers with
    | [] => if Level.warning ≤ r.level then r.message ++ ['\n'] else []
    | hs => hs.flatMap fun h => r.render h ++ ['\n']
  else []

end Logger

/-- The notes from a level on. -/
def notesFrom (l : Level) (ns : List Note) : List Note := ns.filter fun n => decide (l ≤ n.level)

end FixturePragmas.Log
