import FixturePragmas.Toml.Tree

/-!
# Putting tables together

`add` decides whether an entry may join those under its key in a table in the making, and puts it
into the piece of a table that is there or beside it as a further one. `join` adds the entries of
the pieces that are new to what the earlier ones gave, so that pieces which exclude one another
clash. `view` puts all pieces together as they are in the end: there, what an earlier piece has got
since it was joined meets the other pieces.

As tables hold tables, these are bounded by a depth, which the caller takes from the size of the
document.
-/

namespace FixturePragmas.Toml

/-- Whether the entries `new` of a piece of a table may stand beside those of the piece before it,
where one of the two has a header. Nothing stands beside a value, nor a value beside anything;
nothing stands beside what is in several pieces, nor a table with a header beside another; and dots
lead into no array of tables and no table with a header. Open pieces are looked into. -/
def Entries.fits : (depth : Nat) → (old new : Entries) → Except Clash Unit
  | 0, _, _ => .ok ()
  | depth + 1, old, new =>
    new.forM fun e =>
      let repeated : Except Clash Unit := .error (.repeatedKey e.name)
      match old.under e.name, e.2 with
      | [], _ => .ok ()
      | [(_, .tables _)], .tables _ => .ok ()
      | [(_, .tables _)], .table .. => if e.1.dotted then repeated else .ok ()
      | [(_, .table ..)], .tables _ => .ok ()
      -- a header of its own excludes a second one, and dots from outside
      | [(_, .table piece b)], .table piece' b' =>
        match piece.isOpen, piece'.isOpen with
        | true, true => fits depth b.entries b'.entries
        | true, false => .ok ()
        | false, true => if e.1.dotted then .error .redefinition else .ok ()
        | false, false => repeated
      | _, _ => repeated

mutual

/-- The table with one more entry, if it may join those under its name. Nothing joins a value, and a
value joins nothing. An array of tables goes on with another and with an item, and its last table
with an open piece; an item makes an array of a table. Open pieces join each other: they become one
piece if no other table came between them, and stay apart if one did or if dots made them. A table
with a header and an open piece stay apart too, if their entries fit to each other; but a header
comes behind no piece that dots have made. `checked` says whether pieces that stay apart are put
together at once. -/
def Body.add : (depth : Nat) → (checked : Bool) → Body → Entry → Except Clash Body
  | 0, _, b, e => .ok (b.push e)
  | depth + 1, checked, b, e => do
    let repeated : Except Clash Body := .error (.repeatedKey e.name)
    let settle (b : Body) : Except Clash Body :=
      if checked then Body.join depth b e.name else .ok b
    match (b.entries.under e.name).getLast? with
    | none => return b.push e
    | some (key, current) =>
      match e.2, current with
      | .tables us, .tables ts => return b.setLast e.name (.tables (ts ++ us))
      -- items come before the other pieces on the way, which go into the last table instead
      | .table .item new, .tables ts => return b.setLast e.name (.tables (ts ++ [new]))
      | .table .item new, .table _ old => return b.setAll e.name (.tables [old, new])
      | .table .way new, .tables ts => do
        let last ← new.entries.foldlM (Body.add depth true) (ts.getLast?.getD {})
        return b.setLast e.name (.tables (ts.dropLast ++ [last]))
      | .table .header _, .table .header _ => repeated
      | .table .header new, .table _ old => do
        if key.dotted then throw .redefinition
        Entries.fits depth old.entries new.entries
        settle (b.push e)
      | .table .way new, .table .header old => do
        Entries.fits depth old.entries new.entries
        settle (b.push e)
      -- both open: they become one if no table came between them, else the new one stays apart
      | .table .way new, .table piece old =>
        if e.1.dotted || key.dotted || b.lastTable? != some e.name then
          settle (b.push e)
        else do
          let merged ← Body.extend depth old new.entries
          return b.setLast e.name (.table piece merged)
      | _, _ => repeated

/-- A piece of a table that goes on with the entries `new`. -/
def Body.extend : (depth : Nat) → Body → (new : Entries) → Except Clash Body
  | 0, b, new => .ok (new.foldl Body.push b)
  | depth + 1, b, new =>
    new.foldlM
      (fun b e => do
        let b' ← Body.add depth true b e
        -- only the clash counts: the pieces under the name have to fit as they are now
        let _ ← Entries.view depth b'.entries e.name
        return b')
      b

/-- The table with the pieces under a name put together, as far as they were not so before. -/
def Body.join : (depth : Nat) → Body → (name : String) → Except Clash Body
  | 0, b, _ => .ok b
  | depth + 1, b, name =>
    if b.entries.isInPieces name then do
      let pieces := b.entries.under name
      let (count, joined) := b.joint name
      -- the pieces that were joined before are not looked at again
      let joined' ← (Entries.ofPieces (pieces.drop count)).foldlM (Body.add depth true) joined
      return b.setJoint name pieces.length joined'
    else .ok b

/-- The entries of the table under a name, if it is in several pieces. -/
def Entries.view : (depth : Nat) → Entries → (name : String) → Except Clash (Option Entries)
  | 0, _, _ => .ok none
  | depth + 1, es, name =>
    if es.isInPieces name then do
      let view ← (es.under name).ofPieces.foldlM Entries.collect []
      -- what was collected without a decision is decided here, name by name
      view.names.forM fun name' => discard (Body.join depth (.ofEntries view) name')
      return some view
    else .ok none

end

namespace Body

/-- The table with the pieces of each of its tables put together. -/
def joinAll (depth : Nat) (b : Body) : Except Clash Body := b.entries.names.foldlM (join depth) b

/-- The table under a header with one more entry. -/
def addUnderHeader (depth : Nat) (checked : Bool) (b : Body) (e : Entry) : Except Clash Body := do
  let b' ← add depth checked b e
  let _ ← b'.entries.view depth e.name
  return b'

end Body

/-! ### Finished tables -/

mutual

/-- The finished table of some entries. -/
def Entries.toTable : (depth : Nat) → Entries → Except Clash Table
  | 0, _ => .ok []
  | depth + 1, es =>
    es.names.mapM fun name => do
      match es.under name with
      -- a single entry is what it is; pieces are put together first
      | [e] => return (name, ← Node.toValue depth e.2)
      | _ =>
        let view? ← Entries.view depth es name
        return (name, .table (← Entries.toTable depth (view?.getD [])))

/-- The value that a node has in the finished document. -/
def Node.toValue : (depth : Nat) → Node → Except Clash Value
  | 0, _ => .ok (.table [])
  | depth + 1, n =>
    match n with
    | .value v => .ok v
    | .table _ b => (Entries.toTable depth b.entries).map .table
    | .tables ts =>
      (ts.mapM fun b => Entries.toTable depth b.entries).map fun ts => .array (ts.map .table)

end

/-- The finished table of a body. -/
def Body.toTable (depth : Nat) (b : Body) : Except Clash Table := b.entries.toTable depth

end FixturePragmas.Toml
