import FixturePragmas.Toml.Scalar
import FixturePragmas.Toml.Tree.Merge

/-!
# Statements

A document is a sequence of statements, each on a line of its own: an assignment of a value to keys,
or a header that opens a table or a further table of an array. Values are scalars, texts, arrays and
inline tables; the last two may span lines and hold comments, a comma may stand behind their last
item, and they may be nested in each other up to a limit.

An array also ends where a closing bracket stands in place of what should follow in an inline table
within it; this table is then no item.

How far values are read is bounded by the length of the text.
-/

namespace FixturePragmas.Toml

/-- The header of a table, or of a further table of an array. -/
structure Header where
  isArray : Bool
  keys : List String
  deriving DecidableEq, Repr

/-- A statement of a document. -/
inductive Statement where
  | assignment (keys : List String) (v : Value)
  | header (h : Header)
  deriving Repr

/-! ### Values -/

/-- The most arrays and inline tables that may be nested in each other. -/
def nestingLimit : Nat := 100

/-- The depth that is enough for tables made from `length` characters. -/
def depthFor (length : Nat) : Nat := 2 * length + 2

/-- What stands behind the keys of an assignment: an equals sign. -/
def afterEquals (cs : List Char) : Except Obstacle (List Char) :=
  match skipSpaces cs with
  | '=' :: rest => .ok (skipSpaces rest)
  | rest => .error (unexpected rest)

/-- The keys that a text starts with, not too many, and the text behind the equals sign. -/
def assignedKeys (cs : List Char) : Except Obstacle (List String × List Char) := do
  let (ks, rest) ← keys (cs.length + 1) cs
  if keyLimit < ks.length then throw .malformed
  return (ks, ← afterEquals rest)

mutual

/-- The value a text starts with, in which others may be nested `levels` deep. -/
def value : (bound levels : Nat) → List Char → Except Obstacle (Value × List Char)
  | 0, _, _ => .error .malformed
  | _ + 1, _, [] => .error .malformed
  | bound + 1, levels, c :: cs =>
    if isQuote c then do
      let (text, rest) ← orMalformed (text? c cs)
      return (.string (String.ofList text), rest)
    else if c = '[' ∨ c.toNat = 0x7B then
      -- only arrays and inline tables use up a level, so they alone are refused at the limit
      match levels with
      | 0 => .error .malformed
      | levels + 1 =>
        if c = '[' then do
          let (vs, rest) ← items bound levels false cs
          return (.array vs, rest)
        else do
          let (b, rest) ← members bound levels {} cs
          let t ← (b.toTable (depthFor cs.length)).mapError .clash
          return (.table t, rest)
    else
      match scalar? (c :: cs) with
      | some v => .ok v
      | none => .error (unexpected (c :: cs))

/-- The items of an array and its end. `separated` says whether a comma has to come before the next
item. -/
def items : (bound levels : Nat) → (separated : Bool) → List Char →
    Except Obstacle (List Value × List Char)
  | 0, _, _, _ => .error .malformed
  | bound + 1, levels, separated, cs =>
    match skipGaps false cs with
    | some (c :: rest) =>
      if c = ']' then .ok ([], rest)
      else if separated then if c = ',' then items bound levels false rest else .error .malformed
      else
        match value bound levels (c :: rest) with
        | .ok (v, rest') => do
          let (vs, rest'') ← items bound levels true rest'
          return (v :: vs, rest'')
        -- the item met a closing bracket, and this array is the one that it ends
        | .error (.bracket rest') => .ok ([], rest')
        | .error e => .error e
    | _ => .error .malformed

/-- The members of an inline table and its end, behind those that `b` holds. -/
def members : (bound levels : Nat) → (b : Body) → List Char →
    Except Obstacle (Body × List Char)
  | 0, _, _, _ => .error .malformed
  | bound + 1, levels, b, cs => do
    match ← orMalformed (skipGaps false cs) with
    | [] => throw .malformed
    | c :: rest =>
      if c.toNat = 0x7D then return (b, rest)
      let (ks, cs') ← assignedKeys (c :: rest)
      let (v, cs') ← value bound levels cs'
      -- a clash shows as soon as the member is read, before what follows it is
      let b' ← (b.add (depthFor cs.length) true (.ofAssignment ks v)).mapError .clash
      match ← orMalformed (skipGaps false cs') with
      | [] => throw .malformed
      | d :: rest' =>
        if d = ',' then members bound levels b' rest'
        else if d.toNat = 0x7D then return (b', rest')
        else throw (unexpected (d :: rest'))

end

/-! ### Statements -/

/-- Why a document has no statements from some place on. -/
inductive Fault where
  /-- The text is no TOML. -/
  | malformed
  /-- The tables do not fit together. -/
  | clash (c : Clash)
  deriving DecidableEq, Repr

/-- What an obstacle means for the document. -/
def Obstacle.fault : Obstacle → Fault
  | malformed => .malformed
  | bracket _ => .malformed
  | clash c => .clash c

/-- The statements of a text up to its end or to a fault. -/
structure Statements where
  all : List Statement
  fault? : Option Fault
  deriving Repr

namespace Statements

/-- No statements, because of a fault. -/
def stopped (f : Fault) : Statements := ⟨[], some f⟩

/-- The statements behind another. -/
def after (s : Statement) (ss : Statements) : Statements := { ss with all := s :: ss.all }

end Statements

/-- The assignment a text starts with. -/
def assignment (cs : List Char) : Except Obstacle (Statement × List Char) := do
  let (ks, rest) ← assignedKeys cs
  -- no value takes more steps than this, as at least every other one reads a character
  let (v, rest') ← value (2 * cs.length + 2) nestingLimit rest
  return (.assignment ks v, rest')

/-- What follows a header, where `cs` follows its keys; `none`, if the header is not in order. -/
def Header.end? (h : Header) (cs : List Char) : Option (List Char) := do
  let rest ← behind? ']' cs
  let rest' ← if h.isArray then behind? ']' rest else some rest
  if keyLimit < h.keys.length then none else skipLineEnd false rest'

/-- The statements of a text. A header counts as soon as its keys are read. -/
def statements : (bound : Nat) → List Char → Statements
  | 0, _ => .stopped .malformed
  | bound + 1, cs =>
    let go (cs? : Option (List Char)) : Statements :=
      match cs? with
      | some rest => statements bound rest
      | none => .stopped .malformed
    match skipGaps false cs with
    | none => .stopped .malformed
    | some [] => ⟨[], none⟩
    | some (c :: rest) =>
      if c = '[' then
        let isArray := rest.head? = some '['
        let cs' := if isArray then rest.drop 1 else rest
        match keys (cs'.length + 1) cs' with
        | .error _ => .stopped .malformed
        | .ok (ks, rest') =>
          let h : Header := ⟨isArray, ks⟩
          -- the header stands even if its line ends badly: its table is opened before that
          .after (.header h) (go (h.end? rest'))
      else
        match assignment (c :: rest) with
        | .error e => .stopped e.fault
        | .ok (s, rest') =>
          match skipLineEnd false rest' with
          | some rest'' => .after s (go rest'')
          | none => .stopped .malformed

end FixturePragmas.Toml
