import FixturePragmas.Json
import FixturePragmas.Text.Decimal

/-!
# Reading JSON

A reader for JSON texts. Objects keep their members in order, doubled names included. Escapes of two
units that belong together give one character; a unit without its partner is refused, since no
character stands for it.

Each reader takes the text and gives the value with the text behind it. The depth to which values
are read is bounded by a number that starts at the length of the text, which no reading can use up.
-/

namespace FixturePragmas.Json

/-- The text without the blanks it starts with. -/
def skipBlanks (cs : List Char) : List Char :=
  cs.dropWhile fun c => decide (c = ' ' ∨ c = '\n' ∨ c = '\r' ∨ c = '\t')

/-- The number written by exactly `count` hexadecimal digits, read onto `n`. -/
def readHex (n : Nat) : (count : Nat) → List Char → Option (Nat × List Char)
  | 0, cs => some (n, cs)
  | _ + 1, [] => none
  | count + 1, c :: cs => (Text.hexValue? c).bind fun v => readHex (16 * n + v) count cs

/-- The character of a 16-bit unit, which may need a second one. -/
def readUnit (cs : List Char) : Option (Char × List Char) :=
  match readHex 0 4 cs with
  | none => none
  | some (n, rest) =>
    -- a unit between these is one half of a character, and the first half has to come first
    if n < 0xD800 ∨ 0xE000 ≤ n then some (Char.ofNat n, rest)
    else
      match rest with
      | '\\' :: 'u' :: rest' =>
        match readHex 0 4 rest' with
        | none => none
        | some (m, rest'') =>
          if n < 0xDC00 ∧ 0xDC00 ≤ m ∧ m < 0xE000 then
            some (Char.ofNat (0x10000 + (n - 0xD800) * 0x400 + (m - 0xDC00)), rest'')
          else none
      | _ => none

/-- The character behind a backslash. -/
def readEscape : List Char → Option (Char × List Char)
  | '"' :: cs => some ('"', cs)
  | '\\' :: cs => some ('\\', cs)
  | '/' :: cs => some ('/', cs)
  | 'b' :: cs => some (Char.ofNat 8, cs)
  | 'f' :: cs => some (Char.ofNat 12, cs)
  | 'n' :: cs => some ('\n', cs)
  | 'r' :: cs => some ('\r', cs)
  | 't' :: cs => some ('\t', cs)
  | 'u' :: cs => readUnit cs
  | _ => none

/-- The rest of a text between double quotes, behind the characters `read`, last first. -/
def readQuoted (read : List Char) : (bound : Nat) → List Char → Option (List Char × List Char)
  | 0, _ => none
  | _ + 1, [] => none
  | bound + 1, c :: cs =>
    if c = '"' then some (read.reverse, cs)
    else if c = '\\' then (readEscape cs).bind fun e => readQuoted (e.1 :: read) bound e.2
    else if c.toNat < 0x20 then none
    else readQuoted (c :: read) bound cs

/-- Whether `c` may stand in a number. -/
def inNumber (c : Char) : Bool :=
  Text.isAsciiDigit c || c == '-' || c == '+' || c == '.' || c == 'e' || c == 'E'

/-- Whether a number without a sign starts with a zero that it should not have. -/
def leadsWithZero : List Char → Bool
  | '0' :: c :: _ => Text.isAsciiDigit c
  | _ => false

/-- The number that is written as `cs`. -/
def number? (cs : List Char) : Option Json :=
  let negative := cs.head? = some '-'
  let unsigned := if negative then cs.drop 1 else cs
  if leadsWithZero unsigned then none
  else if Text.isRun unsigned then
    let n := Text.Numeral.value (unsigned.map Text.Numeral.asciiValue)
    some (integer (if negative then -(n : Int) else n))
  -- the sign stays in the text of a number that is not converted
  else if Text.isFraction unsigned then some (decimal (String.ofList cs))
  else none

mutual

/-- The value a text starts with. -/
def readValue : (bound : Nat) → List Char → Option (Json × List Char)
  | 0, _ => none
  | bound + 1, cs =>
    match skipBlanks cs with
    | 'n' :: 'u' :: 'l' :: 'l' :: rest => some (null, rest)
    | 't' :: 'r' :: 'u' :: 'e' :: rest => some (bool true, rest)
    | 'f' :: 'a' :: 'l' :: 's' :: 'e' :: rest => some (bool false, rest)
    | '"' :: rest =>
      (readQuoted [] (rest.length + 1) rest).map fun t => (string (String.ofList t.1), t.2)
    | '[' :: rest =>
      match skipBlanks rest with
      | ']' :: rest' => some (array [], rest')
      | rest' => (readItems bound rest').map fun vs => (array vs.1, vs.2)
    | c :: rest =>
      -- the braces of an object, 7B and 7D, are given by their numbers
      if c = Char.ofNat 0x7B then
        match skipBlanks rest with
        | [] => none
        | d :: rest' =>
          if d = Char.ofNat 0x7D then some (object [], rest')
          else (readMembers bound (d :: rest')).map fun ms => (object ms.1, ms.2)
      else
        let body := c :: rest
        (number? (body.takeWhile inNumber)).map fun v => (v, body.dropWhile inNumber)
    | [] => none

/-- The items of an array and its end. -/
def readItems : (bound : Nat) → List Char → Option (List Json × List Char)
  | 0, _ => none
  | bound + 1, cs =>
    (readValue bound cs).bind fun v =>
      match skipBlanks v.2 with
      | ',' :: rest => (readItems bound rest).map fun vs => (v.1 :: vs.1, vs.2)
      | ']' :: rest => some ([v.1], rest)
      | _ => none

/-- The members of an object and its end. -/
def readMembers : (bound : Nat) → List Char → Option (List (String × Json) × List Char)
  | 0, _ => none
  | bound + 1, cs =>
    match skipBlanks cs with
    | '"' :: rest =>
      (readQuoted [] (rest.length + 1) rest).bind fun k =>
        match skipBlanks k.2 with
        | ':' :: rest' =>
          (readValue bound rest').bind fun v =>
            let entry := (String.ofList k.1, v.1)
            match skipBlanks v.2 with
            | [] => none
            | d :: rest'' =>
              if d = ',' then (readMembers bound rest'').map fun ms => (entry :: ms.1, ms.2)
              else if d = Char.ofNat 0x7D then some ([entry], rest'')
              else none
        | _ => none
    | _ => none

end

/-- The value whose text is `cs`. -/
def decode (cs : List Char) : Option Json :=
  -- no text takes more steps than this, as at least every other one reads a character
  match readValue (2 * cs.length + 2) cs with
  | some (v, rest) => if skipBlanks rest = [] then some v else none
  | none => none

end FixturePragmas.Json
