import FixturePragmas.Text.Printable

/-!
# Quoted text

Names and paths are shown in messages between quotes. The quotes are single ones, unless the text
holds a single and no double quote; a backslash, the quote in use and every character that does not
show by itself are escaped.
-/

namespace FixturePragmas.Text

/-- The last `width` hexadecimal digits of `n`, small letters. -/
def hexDigits : (width : Nat) → (n : Nat) → List Char
  | 0, _ => []
  | width + 1, n => hexDigits width (n / 16) ++ [Nat.digitChar (n % 16)]

/-- A character by its number. -/
def numbered (c : Char) : List Char :=
  if c.toNat < 0x100 then '\\' :: 'x' :: hexDigits 2 c.toNat
  else if c.toNat < 0x10000 then '\\' :: 'u' :: hexDigits 4 c.toNat
  else '\\' :: 'U' :: hexDigits 8 c.toNat

/-- One character between quotes of the form `quote`. -/
def quotedChar (quote c : Char) : List Char :=
  if c = '\\' ∨ c = quote then ['\\', c]
  else if c = '\t' then ['\\', 't']
  else if c = '\n' then ['\\', 'n']
  else if c = '\r' then ['\\', 'r']
  else if isPrintable c then [c]
  else numbered c

/-- The text between quotes. -/
def quotedChars (cs : List Char) : List Char :=
  let quote := if '\'' ∈ cs ∧ '"' ∉ cs then '"' else '\''
  quote :: cs.flatMap (quotedChar quote) ++ [quote]

/-- The text between quotes. -/
def quoted (s : String) : String := String.ofList (quotedChars s.toList)

/-- The text between quotes, characters that are not ASCII given by their numbers. -/
def quotedAscii (cs : List Char) : List Char :=
  (quotedChars cs).flatMap fun c => if c.toNat < 0x80 then [c] else numbered c

/-- Texts between quotes, listed in brackets. -/
def quotedList (ss : List String) : String := "[" ++ ", ".intercalate (ss.map quoted) ++ "]"

end FixturePragmas.Text
