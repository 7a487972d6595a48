import FixturePragmas.Json
import FixturePragmas.Toml.Value

/-!
# Settings in JSON

A JSON value says the same as a value of a settings document: objects are tables, and the null value
and numbers with a fraction, which no setting uses, are known by their type only. In this way what
the program lists in JSON can be read as settings.
-/

namespace FixturePragmas.Toml

mutual

/-- The value that a JSON value says. -/
def Value.ofJson : Json → Value
  | .null => .other "null"
  | .bool b => .boolean b
  | .integer n => .integer n
  | .decimal _ => .other "float"
  | .string s => .string s
  | .array vs => .array (Value.ofJsons vs)
  | .object ms => .table (Table.ofMembers ms)

/-- The values that several JSON values say. -/
def Value.ofJsons : List Json → List Value
  | [] => []
  | v :: vs => Value.ofJson v :: Value.ofJsons vs

/-- The table that the members of an object say. -/
def Table.ofMembers : List (String × Json) → List (String × Value)
  | [] => []
  | (k, v) :: ms => (k, Value.ofJson v) :: Table.ofMembers ms

end

end FixturePragmas.Toml
