import FixturePragmas.Toml.Statement

/-!
# Documents

The reader of TOML documents. Statements are put together one after the other. A header opens a
table within the innermost open one whose name it goes on with; the open tables that lie deeper are
closed first, one after the other, and each joins the table around it. Behind the tables of the
array `a`, the header `[[a]]` starts the next of them. In such a further table, a header of an array
whose way to its last key begins with `a` once more makes an item of an array of what lies on it.

Tables that contradict each other clash where that shows within a table, or when the finished tables
are put together. An entry that does not fit to those at the top means that the text is no TOML.
-/

namespace FixturePragmas.Toml

/-- An open table. -/
structure OpenTable where
  /-- The keys in its header. -/
  name : List String
  /-- Those of the keys that lead to it from the table around it. -/
  way : List String
  isArray : Bool
  /-- Whether the first piece on the way to it is an item of an array. -/
  isInItem : Bool := false
  /-- The tables of the same array before it. -/
  earlier : List Body := []
  body : Body := {}

namespace OpenTable

/-- What stands under the last key of the way when the table is closed. -/
def node (t : OpenTable) : Node :=
  if t.isArray then .tables (t.earlier ++ [t.body]) else .table .header t.body

/-- What the table is in the one around it when it is closed. -/
def entry (t : OpenTable) : Entry :=
  let e := Entry.ofKeys false t.node t.way
  if t.isInItem then e.asItem else e

/-- Whether a header goes on with the name of the table, so that it opens one within it. -/
def encloses (t : OpenTable) (h : Header) : Bool := t.name.isPrefixOf h.keys && t.name != h.keys

/-- Whether a header starts the next table of the array. An array to which the way leads through
other tables is taken up anew instead. -/
def goesOn (t : OpenTable) (h : Header) : Bool :=
  h.isArray && t.isArray && t.way.length == 1 && t.name == h.keys

/-- The next table of the array. -/
def next (t : OpenTable) : OpenTable :=
  { t with earlier := t.earlier ++ [t.body], body := {} }

/-- Whether a table is a further one of the array under the single key `k?`. -/
def isFurtherOf (k? : Option String) (t : OpenTable) : Bool :=
  t.isArray && !t.earlier.isEmpty && some t.name == k?.map ([·])

/-- The table that a header opens, within the open tables `around`, innermost first. -/
def ofHeader (h : Header) (around : List OpenTable) : OpenTable :=
  -- the name of the table around it is the first part of the header
  let way := h.keys.drop (around.head?.elim 0 (·.name.length))
  { name := h.keys
    way
    isArray := h.isArray
    isInItem := h.isArray && around.any (isFurtherOf way.head?) }

end OpenTable

/-- A document that is being put together: the entries at its top, and the open tables, innermost
first. -/
structure Draft where
  top : Body := {}
  openTables : List OpenTable := []

namespace Draft

/-- The entries at the top with one more, or the fault that they do not fit together. -/
def addToTop (depth : Nat) (top : Body) (e : Entry) : Except Fault Body :=
  (top.add depth true e).mapError fun _ => .malformed

/-- The draft with a value assigned to keys. -/
def assign (depth : Nat) (d : Draft) (ks : List String) (v : Value) : Except Fault Draft :=
  match d.openTables with
  | [] => (addToTop depth d.top (.ofAssignment ks v)).map fun top => { d with top }
  | t :: ts =>
    -- pieces that dots make are joined at once, others when the table is closed
    let isDotted := decide (1 < ks.length)
    ((t.body.addUnderHeader depth isDotted (.ofAssignment ks v)).mapError .clash).map fun body =>
      { d with openTables := { t with body } :: ts }

/-- An open table with the entry of one that was closed within it, if there is one. -/
def absorb (depth : Nat) (closed? : Option Entry) (t : OpenTable) : Except Fault OpenTable :=
  match closed? with
  | none => .ok t
  | some e => do
    let body ← (t.body.addUnderHeader depth false e).mapError .clash
    return { t with body }

/-- Close the open tables that the header `h?`, or else the end of the document, does not go on
with, and open that of the header. `closed?` is what the last table that was closed has left. -/
def close (depth : Nat) (h? : Option Header) (top : Body) (closed? : Option Entry) :
    List OpenTable → Except Fault Draft
  | [] => do
    let top' ←
      match closed? with
      | none => pure top
      | some e => addToTop depth top e
    return { top := top', openTables := (h?.map (OpenTable.ofHeader · [])).toList }
  | t :: ts => do
    -- the table closed last joins this one before anything is decided about this one
    let t ← absorb depth closed? t
    match h?.filter t.encloses with
    | some h => return { top, openTables := .ofHeader h (t :: ts) :: t :: ts }
    | none => do
      let body ← (t.body.joinAll depth).mapError .clash
      let t := { t with body }
      -- its tables are kept together until the array is closed
      if (h?.map t.goesOn).getD false then return { top, openTables := t.next :: ts }
      close depth h? top (some t.entry) ts

/-- The draft with a further statement. -/
def add (depth : Nat) (d : Draft) : Statement → Except Fault Draft
  | .assignment ks v => d.assign depth ks v
  | .header h => close depth (some h) d.top none d.openTables

/-- The finished document. -/
def finish (depth : Nat) (d : Draft) : Except Fault Table := do
  let d' ← close depth none d.top none d.openTables
  (d'.top.toTable depth).mapError .clash

end Draft

/-- The document that statements make up. The first fault decides. -/
def Statements.document (depth : Nat) (ss : Statements) : Except Fault Table := do
  -- what is wrong further down in the text comes after a clash of the statements before it
  let d ← ss.all.foldlM (Draft.add depth) {}
  match ss.fault? with
  | some f => throw f
  | none => d.finish depth

/-- The document whose text is `cs`, lines ending in LF. -/
def parse (cs : List Char) : Except Fault Table :=
  (statements (cs.length + 1) cs).document (depthFor cs.length)

end FixturePragmas.Toml
