/-!
# JSON values

JSON values whose objects keep the order of their members. Numbers are integers; a number that is
written with a fraction or an exponent is kept as it is written.
-/

namespace FixturePragmas

/-- A JSON value. -/
inductive Json where
  | null
  | bool (b : Bool)
  | integer (n : Int)
  | decimal (text : String)
  | string (s : String)
  | array (items : List Json)
  | object (members : List (String × Json))
  deriving Repr, Inhabited

namespace Json

/-- The members of an object; other values have none. -/
def members : Json → List (String × Json)
  | object ms => ms
  | _ => []

/-- The first member called `name`. -/
def member? (v : Json) (name : String) : Option Json := v.members.lookup name

/-- The items of an array; other values have none. -/
def items : Json → List Json
  | array vs => vs
  | _ => []

/-- An array of texts. -/
def strings (ss : List String) : Json := array (ss.map string)

end Json

end FixturePragmas
