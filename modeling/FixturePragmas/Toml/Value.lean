/-!
# Values of settings documents

The values a document in the TOML format holds. Texts, integers and truth values are kept; of
numbers with a fraction, dates and times only their type is, since no setting uses them. Tables keep
their keys in order, and have each key once.
-/

namespace FixturePragmas.Toml

/-- A value in a document. -/
inductive Value where
  | string (s : String)
  | integer (n : Int)
  | boolean (b : Bool)
  /-- A value of another type, of which nothing but the name of the type is kept. -/
  | other (typeName : String)
  | array (items : List Value)
  | table (entries : List (String × Value))
  deriving Repr, Inhabited

/-- The entries of a table, in order. -/
abbrev Table := List (String × Value)

namespace Value

/-- The entries of a table, if the value is one. -/
def table? : Value → Option Table
  | table es => some es
  | _ => none

/-- The text, if the value is one. -/
def string? : Value → Option String
  | string s => some s
  | _ => none

/-- The items of an array of texts, if the value is one. -/
def strings? : Value → Option (List String)
  | array vs => vs.mapM string?
  | _ => none

end Value

end FixturePragmas.Toml
