import FixturePragmas.Toml.Value

/-!
# Tables in the making

While a document is read, its tables are lists of entries. A table may be written in several pieces:
under one key there may then be several entries, and the table is what these give together. A piece
that merely lies on the way to another table, or is made by a key with dots, is open; one with a
header of its own is closed. Under the key of an array of tables stands a single entry with all of
them.

That the pieces of a table fit to each other shows when they are put together one entry after the
other. What the pieces so far have given is kept in a joint beside the entries, so that a further
piece is weighed against that alone: an entry which an earlier piece has got in the meantime is not
in it.
-/

namespace FixturePragmas.Toml

/-- How the tables of a document can contradict each other. -/
inductive Clash where
  /-- A key is used twice. -/
  | repeatedKey (key : String)
  /-- A header opens a table that keys with dots have made, or the other way round. -/
  | redefinition
  deriving DecidableEq, Repr

/-- The wording of a clash. -/
def Clash.message : Clash → String
  | repeatedKey key => s!"Key \"{key}\" already exists."
  | redefinition => "Redefinition of an existing table"

/-- A key, and whether it was followed by a dot in an assignment. -/
structure Key where
  name : String
  dotted : Bool := false
  deriving DecidableEq, Repr

/-- What a piece of a table was written for. -/
inductive Piece where
  /-- It lies on the way to what its keys lead to. -/
  | way
  /-- It lies on the way to an array of tables, and is to be an item of an array itself. -/
  | item
  /-- It has a header of its own. -/
  | header
  deriving DecidableEq, Repr

/-- Whether a piece lies on the way to something else. -/
def Piece.isOpen : Piece → Bool
  | header => false
  | _ => true

mutual

/-- What stands under a key while a document is read. -/
inductive Node where
  | value (v : Value)
  | table (piece : Piece) (body : Body)
  | tables (items : List Body)

/-- A table in the making, or a piece of one: its entries, the joints of keys in pieces, and the
name of the entry that was the last to come as a piece of a table. -/
inductive Body where
  | mk (entries : List (Key × Node)) (joints : List Joint) (lastTable? : Option String)

/-- What the first pieces of the table under a name, `count` in number, have given together. -/
inductive Joint where
  | mk (name : String) (count : Nat) (joined : Body)

end

/-- An entry of a table in the making. -/
abbrev Entry := Key × Node

/-- The entries of a table in the making. -/
abbrev Entries := List Entry

/-- The name that an entry stands under. -/
def Entry.name (e : Entry) : String := e.1.name

/-- The entries of a table in the making. -/
def Body.entries : Body → Entries
  | mk es _ _ => es

/-- The entries of a piece of a table; other nodes have none. -/
def Node.entries : Node → Entries
  | .table _ b => b.entries
  | _ => []

/-- Whether a node is a piece of a table. -/
def Node.isTable : Node → Bool
  | .table .. => true
  | _ => false

/-! ### Entries -/

namespace Entries

/-- The entries under a name. -/
def under (es : Entries) (name : String) : Entries := es.filter (·.name = name)

/-- The names, each once, in the order in which they come first. -/
def names (es : Entries) : List String := (es.map Entry.name).eraseDups

/-- Whether there are several entries under a name. -/
def isInPieces (es : Entries) (name : String) : Bool := decide (2 ≤ (es.under name).length)

/-- The entries of all pieces of a table. -/
def ofPieces (es : Entries) : Entries := es.flatMap fun e => e.2.entries

/-- Put `n` in place of the last entry under a name. -/
def setLast (name : String) (n : Node) : Entries → Entries
  | [] => []
  | e :: es =>
    -- no entry with the name behind it: this is the last one
    if e.name = name ∧ (under es name).isEmpty then (e.1, n) :: es else e :: setLast name n es

/-- Put `n` in place of all entries under a name, where the first of them stands. -/
def setAll (name : String) (n : Node) : Entries → Entries
  | [] => []
  | e :: es =>
    if e.name = name then (e.1, n) :: es.filter (·.name ≠ name) else e :: setAll name n es

/-- The entries with one more, put to what is there without a decision: only what is no table
excludes others, except that arrays of tables are put together. -/
def collect (es : Entries) (e : Entry) : Except Clash Entries :=
  match (es.under e.name).getLast?, e.2 with
  | none, _ => .ok (es ++ [e])
  | some (_, .tables ts), .tables us => .ok (es.setLast e.name (.tables (ts ++ us)))
  -- behind a piece of a table anything may stand; whether it fits shows when they are joined
  | some (_, .table ..), _ => .ok (es ++ [e])
  | some _, _ => .error (.repeatedKey e.name)

end Entries

/-! ### Bodies -/

namespace Body

instance : EmptyCollection Body := ⟨mk [] [] none⟩

/-- The name of the entry that was the last to come as a piece of a table. -/
def lastTable? : Body → Option String
  | mk _ _ last? => last?

/-- The table with an entry behind the others. -/
def push : Body → Entry → Body
  | mk es js last?, e => mk (es ++ [e]) js (if e.2.isTable then some e.name else last?)

/-- A table with some entries, none of them put together yet. -/
def ofEntries (es : Entries) : Body := es.foldl push {}

/-- The table with another node in place of the last under a name. -/
def setLast : Body → (name : String) → Node → Body
  | mk es js last?, name, n => mk (Entries.setLast name n es) js last?

/-- The table with another node in place of all under a name. -/
def setAll : Body → (name : String) → Node → Body
  | mk es js last?, name, n => mk (Entries.setAll name n es) js last?

/-- How many pieces of the table under a name were put together, and what they gave. -/
def joint : Body → (name : String) → Nat × Body
  | mk _ js _, name =>
    match js.find? fun (.mk name' _ _) => name' = name with
    | some (.mk _ count joined) => (count, joined)
    | none => (0, {})

/-- The table with another joint under a name. -/
def setJoint : Body → (name : String) → (count : Nat) → (joined : Body) → Body
  | mk es js last?, name, count, joined =>
    mk es (.mk name count joined :: js.filter fun (.mk name' _ _) => name' ≠ name) last?

end Body

/-! ### Keys that lead to something -/

/-- The entry under `k` in which the further keys lead to a node through open pieces of tables.
`dotted` says whether it is dots of an assignment that join the keys. -/
def Entry.leading (dotted : Bool) (n : Node) (k : String) : List String → Entry
  | [] => ({ name := k }, n)
  | k' :: ks => ({ name := k, dotted }, .table .way (.ofEntries [leading dotted n k' ks]))

/-- The entry in which keys lead to a node; no keys count as an empty one. -/
def Entry.ofKeys (dotted : Bool) (n : Node) (ks : List String) : Entry :=
  leading dotted n (ks.headD "") ks.tail

/-- The entry for a value that is assigned to keys. -/
def Entry.ofAssignment (ks : List String) (v : Value) : Entry := ofKeys true (.value v) ks

/-- The entry as an item of an array, if it is a piece on the way to something else. -/
def Entry.asItem : Entry → Entry
  | (k, .table .way b) => (k, .table .item b)
  | e => e

end FixturePragmas.Toml
