import FixturePragmas.Text.Decimal
import FixturePragmas.Text.Integer
import FixturePragmas.Toml.Lexeme

/-!
# Numbers, dates and times

The scalars of TOML that are written without quotes. A number is an integer to the base ten, or,
with a mark in front, to one of three other bases; or it has a fraction, an exponent or both.
Underscores may stand between ASCII digits; behind the first character, digits of other scripts
count as well. Dates and times follow the internet format, in which the seconds may be left out, and
must exist in the calendar.
-/

namespace FixturePragmas.Toml

open Text (isAsciiDigit isFraction isRun)

/-! ### Numbers -/

/-- The text without underscores that stand between two characters of the class `p`; others stay. -/
def withoutUnderscores (p : Char → Bool) (before : Char) : List Char → List Char
  | [] => []
  | [c] => [c]
  | c :: d :: rest =>
    -- what stood before the underscore does not count behind it: two underscores in a row stay
    if c = '_' ∧ p before ∧ p d then withoutUnderscores p c (d :: rest)
    else c :: withoutUnderscores p c (d :: rest)

/-- The number whose digits to the base `base` are `ds`. -/
def natural? (base : Nat) (ds : List Char) : Option Nat :=
  if ds = [] then none
  else
    (ds.mapM fun c => (Text.hexValue? c).bind fun v => if v < base then some v else none).map
      fun vs => vs.foldl (fun n v => base * n + v) 0

/-- The digits of `ds` as one natural number to the base `base`, underscores between them. -/
def marked? (base : Nat) (ds : List Char) : Option Nat :=
  let isDigit := fun c => ((Text.hexValue? c).map (decide <| · < base)).getD false
  natural? base (Text.Integer.plain (withoutUnderscores isDigit '_' ds))

/-- Whether a numeral starts with a zero that it should not have. -/
def leadsWithZero (ds : List Char) : Bool :=
  match ds with
  | '0' :: c :: _ => c != '.' && c != 'e' && c != 'E'
  | _ => false

/-- Whether the digits of a numeral, before an exponent, end in a point. -/
def endsInPoint (ds : List Char) : Bool :=
  (ds.takeWhile fun c => c != 'e' && c != 'E').getLast? == some '.'

/-- The name of the type of numbers with a fraction. -/
def fractionType : String := "float"

/-- The words for numbers that are none. -/
def numberWords : List String := ["inf", "nan"]

/-- The words for such numbers behind a sign, capitals aside. -/
def signedNumberWords : List String := "infinity" :: numberWords

/-- The number to the base ten that `ds` writes behind the sign, which is negative if `sign?` says
so. Without a sign it has to start with an ASCII digit. -/
def decimal? (sign? : Option Bool) (ds : List Char) : Option Value :=
  let plain := Text.Integer.plain (withoutUnderscores isAsciiDigit '_' ds)
  -- the words are in small letters only, but behind a sign capitals pass
  let word := String.ofList (plain.map Char.toLower)
  let isWord :=
    if sign?.isSome then word ∈ signedNumberWords else String.ofList ds ∈ numberWords
  let opens := (ds.head?.map fun c => if sign?.isSome then c != '.' else isAsciiDigit c).getD false
  -- words come first: none of the conditions on digits is about them
  if isWord then some (.other fractionType)
  else if !opens || leadsWithZero ds || endsInPoint ds then none
  -- a zero in front or a point at the end is refused before the digits are converted
  else if isRun plain then
    match Text.Numeral.ofDigits plain with
    | .ok n => some (.integer (if sign? = some true then -(n : Int) else n))
    | .error _ => none
  else if isFraction plain then some (.other fractionType)
  else none

/-- The number that `cs` writes. -/
def number? (cs : List Char) : Option Value :=
  match cs with
  -- behind a sign such a mark is a zero that should not be there, which `decimal?` refuses
  | '0' :: 'x' :: ds => (marked? 16 ds).map fun n => .integer n
  | '0' :: 'o' :: ds => (marked? 8 ds).map fun n => .integer n
  | '0' :: 'b' :: ds => (marked? 2 ds).map fun n => .integer n
  | _ => decimal? (Text.Integer.splitSign cs).1 (Text.Integer.splitSign cs).2

/-! ### Dates and times -/

/-- The number written by exactly `count` digits, and what follows. -/
def fixedDigits? (count : Nat) (cs : List Char) : Option (Nat × List Char) :=
  let ds := cs.take count
  if ds.length = count ∧ isRun ds then
    some (Text.Numeral.value (ds.map Text.Numeral.asciiValue), cs.drop count)
  else none

/-- The text behind the sign `c`. -/
def behind? (c : Char) : List Char → Option (List Char)
  | [] => none
  | d :: cs => if d = c then some cs else none

/-- The days of a month. -/
def daysIn (year month : Nat) : Nat :=
  if month = 2 then
    if year % 4 = 0 ∧ (year % 100 ≠ 0 ∨ year % 400 = 0) then 29 else 28
  else if month = 4 ∨ month = 6 ∨ month = 9 ∨ month = 11 then 30
  else 31

/-- What follows a date. -/
def afterDate? (cs : List Char) : Option (List Char) := do
  let (year, cs) ← fixedDigits? 4 cs
  let cs ← behind? '-' cs
  let (month, cs) ← fixedDigits? 2 cs
  let cs ← behind? '-' cs
  let (day, cs) ← fixedDigits? 2 cs
  if 1 ≤ year ∧ 1 ≤ month ∧ month ≤ 12 ∧ 1 ≤ day ∧ day ≤ daysIn year month then some cs else none

/-- What follows the hours and minutes of a time or an offset. -/
def afterMinutes? (cs : List Char) : Option (List Char) := do
  let (hours, cs) ← fixedDigits? 2 cs
  let cs ← behind? ':' cs
  let (minutes, cs) ← fixedDigits? 2 cs
  if hours < 24 ∧ minutes < 60 then some cs else none

/-- What follows the seconds of a time, if there are any, with the parts of the last one. -/
def afterSeconds? (cs : List Char) : Option (List Char) :=
  match cs with
  | ':' :: cs => do
    let (seconds, cs) ← fixedDigits? 2 cs
    if seconds < 60 then
      match cs with
      | '.' :: rest =>
        if rest.takeWhile isAsciiDigit = [] then none else some (rest.dropWhile isAsciiDigit)
      | _ => some cs
    else none
  | _ => some cs

/-- What follows a time. -/
def afterTime? (cs : List Char) : Option (List Char) := (afterMinutes? cs).bind afterSeconds?

/-- Whether `cs` is nothing, or the offset of a time zone. -/
def isOffset (cs : List Char) : Bool :=
  match cs with
  | [] => true
  | c :: rest =>
    if c = 'Z' ∨ c = 'z' then rest = []
    else (c == '+' || c == '-') && afterMinutes? rest == some []

/-- The date, time or both that `cs` is. -/
def moment? (cs : List Char) : Option Value :=
  match afterDate? cs with
  | some [] => some (.other "date")
  | some (c :: rest) =>
    if c = 'T' ∨ c = 't' ∨ c = ' ' then
      (afterTime? rest).bind fun zone => if isOffset zone then some (.other "datetime") else none
    else none
  | none => if afterTime? cs = some [] then some (.other "time") else none

/-! ### Scalars in a document -/

/-- Whether a scalar goes on with `c`. -/
def inScalar (c : Char) : Bool :=
  !(isSpace c || c == '\n' || c == '#' || c == ',' || c == ']' || c.toNat == 0x7D)

/-- The number, date or time a text starts with. A date is read on over blanks if a time follows it
there. -/
def amount? (cs : List Char) : Option (Value × List Char) :=
  let word := cs.takeWhile inScalar
  let rest := cs.dropWhile inScalar
  let inLine := fun c => inScalar c || c == ' '
  -- a blank ends a scalar, but a time may stand behind the blank after a date
  let more := Text.trimEnd (rest.takeWhile inLine)
  match moment? word with
  | some (.other "date") =>
    let v? := if more = [] then some (.other "date") else moment? (word ++ more)
    v?.map fun v => (v, rest.dropWhile inLine)
  | some v => some (v, rest)
  -- dates and times are tried first, as they start with digits like numbers
  | none => (number? word).map fun v => (v, rest)

/-- The scalar a text starts with. -/
def scalar? : List Char → Option (Value × List Char)
  | 't' :: 'r' :: 'u' :: 'e' :: rest => some (.boolean true, rest)
  | 'f' :: 'a' :: 'l' :: 's' :: 'e' :: rest => some (.boolean false, rest)
  | cs => amount? cs

end FixturePragmas.Toml
