import FixturePragmas.Text.Blank
import FixturePragmas.Text.Numeral
import FixturePragmas.Text.Quoted

/-!
# Written integers

An integer is written as a numeral with an optional sign. Single underscores may stand between its
digits, and white space around the whole; the information separators, white space elsewhere, are
none here. Digits of every script count as the ASCII digits of their values.
-/

namespace FixturePragmas.Text.Integer

/-- Whether `c` may stand around an integer. -/
def isPadding (c : Char) : Bool := isBlank c && decide (c.toNat < 0x1C ∨ 0x20 ≤ c.toNat)

/-- The text without the padding at its two ends. -/
def unpadded (cs : List Char) : List Char :=
  ((cs.dropWhile isPadding).reverse.dropWhile isPadding).reverse

/-- The ASCII digit with the value of the digit `c`; other characters stay. -/
def asciiDigit (c : Char) : Char := ((decimalValue? c).map Nat.digitChar).getD c

/-- The text without padding, its digits in ASCII. -/
def plain (cs : List Char) : List Char := (unpadded cs).map asciiDigit

/-- The sign a text starts with, and what follows it. -/
def splitSign : List Char → Option Bool × List Char
  | '+' :: cs => (some false, cs)
  | '-' :: cs => (some true, cs)
  | cs => (none, cs)

/-- The text without the underscores among the digits it starts with; `none`, if one of these does
not stand between two digits. `afterDigit` says whether a digit was read last. -/
def joined? (afterDigit : Bool) : List Char → Option (List Char)
  | [] => some []
  | c :: cs =>
    if c = '_' then
      if afterDigit && (cs.head?.map isAsciiDigit).getD false then joined? false cs else none
    else if isAsciiDigit c then (joined? true cs).map (c :: ·)
    else some (c :: cs)

/-- The most characters of a text that are shown when it is no integer. -/
def shownLength : Nat := 200

/-- The text as it is shown when it is no integer. -/
def shown (cs : List Char) : String := String.ofList ((quotedChars cs).take shownLength)

/-- The integer that `cs` writes. -/
def read (cs : List Char) : Except Numeral.Error Int :=
  let (sign, unsigned) := splitSign (plain cs)
  match joined? false unsigned with
  | none => .error (.notANumeral (shown cs))
  | some ds => (Numeral.read ds (shown cs)).map fun n => if sign = some true then -(n : Int) else n

end FixturePragmas.Text.Integer
