import FixturePragmas.Json
import FixturePragmas.Text.Numeral
import FixturePragmas.Text.Quoted

/-!
# Printing JSON

JSON is printed in ASCII, either on one line or with every item on a line of its own, two blanks
deeper than what holds it. Empty arrays and objects are printed without a break in both styles.
-/

namespace FixturePragmas.Json

/-- How the items of an array or object are set apart. -/
inductive Style where
  | line
  | indented
  deriving DecidableEq, Repr

/-- What stands before the first item and, at the depth outside, behind the last. -/
def Style.break (s : Style) (depth : Nat) : List Char :=
  match s with
  | .line => []
  | .indented => '\n' :: List.replicate (2 * depth) ' '

/-- What stands between two items. -/
def Style.separator (s : Style) (depth : Nat) : List Char :=
  match s with
  | .line => [',', ' ']
  | .indented => ',' :: s.break depth

/-- The escape of a 16-bit unit. -/
def unitEscape (n : Nat) : List Char := '\\' :: 'u' :: Text.hexDigits 4 n

/-- A character between double quotes. Those beyond 16 bits are written as two units. -/
def quotedChar (c : Char) : List Char :=
  if c = '"' then ['\\', '"']
  else if c = '\\' then ['\\', '\\']
  else if c = '\n' then ['\\', 'n']
  else if c = '\r' then ['\\', 'r']
  else if c = '\t' then ['\\', 't']
  else if c = Char.ofNat 8 then ['\\', 'b']
  else if c = Char.ofNat 12 then ['\\', 'f']
  -- all of printable ASCII but the two above stands for itself
  else if 0x20 ≤ c.toNat ∧ c.toNat < 0x7F then [c]
  else if c.toNat < 0x10000 then unitEscape c.toNat
  else
    -- the upper ten bits of what is beyond 16 bits, then the lower ten
    unitEscape (0xD800 + (c.toNat - 0x10000) / 0x400)
      ++ unitEscape (0xDC00 + (c.toNat - 0x10000) % 0x400)

/-- A text between double quotes. -/
def quotedText (s : String) : List Char := '"' :: s.toList.flatMap quotedChar ++ ['"']

mutual

/-- A value at the given depth. -/
def renderAt (s : Style) (depth : Nat) : Json → List Char
  | null => "null".toList
  | bool true => "true".toList
  | bool false => "false".toList
  | integer n => Text.Numeral.ofInt n
  | decimal text => text.toList
  | string text => quotedText text
  | array [] => ['[', ']']
  | array (v :: vs) =>
    '[' :: s.break (depth + 1) ++ renderAt s (depth + 1) v ++ renderItems s (depth + 1) vs
      ++ s.break depth ++ [']']
  | object [] => [Char.ofNat 0x7B, Char.ofNat 0x7D]
  | object ((k, v) :: ms) =>
    Char.ofNat 0x7B :: s.break (depth + 1) ++ quotedText k ++ [':', ' ']
      ++ renderAt s (depth + 1) v ++ renderMembers s (depth + 1) ms ++ s.break depth
      ++ [Char.ofNat 0x7D]

/-- The items that follow the first one of an array. -/
def renderItems (s : Style) (depth : Nat) : List Json → List Char
  | [] => []
  | v :: vs => s.separator depth ++ renderAt s depth v ++ renderItems s depth vs

/-- The members that follow the first one of an object. -/
def renderMembers (s : Style) (depth : Nat) : List (String × Json) → List Char
  | [] => []
  | (k, v) :: ms =>
    s.separator depth ++ quotedText k ++ [':', ' '] ++ renderAt s depth v
      ++ renderMembers s depth ms

end

/-- The text of a value. -/
def render (s : Style) (v : Json) : String := String.ofList (renderAt s 0 v)

end FixturePragmas.Json
