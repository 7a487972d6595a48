import FixturePragmas.Text.Nearest

/-!
# Places for values

A template has places for its arguments. What is written in a place is filled up with blanks, or, if
it is a number, with zeros, to the width of the place. A precision cuts texts, gives whole numbers
leading zeros, and tells how many digits a number with a fraction has.

No text may have more than `longestText` characters.
-/

namespace FixturePragmas.Log.Template

/-- How a value is laid out in its place. -/
structure Place where
  left : Bool
  zero : Bool
  plus : Bool
  blank : Bool
  alternate : Bool
  width : Nat
  precision? : Option Nat
  deriving DecidableEq, Repr

/-- The most characters that a text can have. -/
def longestText : Nat := Nat.pow 2 30

namespace Place

/-- The text with blanks up to the width of its place. -/
def pad (p : Place) (cs : List Char) : List Char :=
  let blanks := List.replicate (p.width - cs.length) ' '
  if p.left then cs ++ blanks else blanks ++ cs

/-- A text in its place; a precision cuts it. -/
def text (p : Place) (cs : List Char) : List Char := p.pad ((p.precision?.map cs.take).getD cs)

/-- The sign of a number. -/
def sign (p : Place) (negative : Bool) : List Char :=
  if negative then ['-'] else if p.plus then ['+'] else if p.blank then [' '] else []

/-- A number in its place: its sign and mark, zeros up to the width if there are to be any, and what
is written of its amount. -/
def signed (p : Place) (negative : Bool) (mark amount : List Char) : List Char :=
  let head := p.sign negative ++ mark
  if p.zero && !p.left then
    -- zeros stand between the sign and the digits, where blanks would stand before the sign
    head ++ List.replicate (p.width - head.length - amount.length) '0' ++ amount
  else p.pad (head ++ amount)

/-- A whole number in its place, `digits` being those of its amount and `mark` what tells their
base. -/
def whole (p : Place) (negative : Bool) (mark digits : List Char) : List Char :=
  let zeros := List.replicate (p.precision?.getD 0 - digits.length) '0'
  p.signed negative (if p.alternate then mark else []) (zeros ++ digits)

end Place

/-! ### Numbers with a fraction -/

/-- The ways in which a number with a fraction is written. -/
inductive FractionForm where
  /-- With digits behind the point. -/
  | fixed
  /-- With one digit before the point, and a power of ten. -/
  | exponent
  /-- In the shorter of these two ways. -/
  | general
  deriving DecidableEq, Repr

/-- The digits behind the point when no precision is given. -/
def usualPrecision : Nat := 6

/-- The bits that are kept of a number. -/
def bitsKept : Nat := 53

/-- Numbers from this one on are too large to have a fraction. -/
def fractionBound : Nat := Nat.pow 2 1024

/-- Digits with a point behind the first `count` of them; a point at the end is left out, unless
`keepPoint` holds. -/
def pointed (keepPoint : Bool) (count : Nat) (ds : List Char) : List Char :=
  let fraction := ds.drop count
  ds.take count ++ if fraction = [] ∧ !keepPoint then [] else '.' :: fraction

/-- The digits `ds` with zeros behind them, `count` in all. -/
def withZeros (count : Nat) (ds : List Char) : List Char :=
  ds ++ List.replicate (count - ds.length) '0'

/-- The digits without the zeros at their end. -/
def withoutZeros (ds : List Char) : List Char := (ds.reverse.dropWhile (· = '0')).reverse

/-- A power of ten, the exponent with two digits at least. -/
def powerOfTen (capitals : Bool) (n : Nat) : List Char :=
  let ds := Text.Numeral.digits n
  (if capitals then 'E' else 'e') :: '+' :: List.replicate (2 - ds.length) '0' ++ ds

/-- The number `n` with one digit before the point and `count` behind it. Zeros at the end are
written if `allZeros` holds. -/
def inExponent (capitals keepPoint allZeros : Bool) (count n : Nat) : List Char :=
  -- rounded before it is cut, since rounding up may lengthen the number
  let all := Text.Numeral.digits (Text.toLeading 10 (count + 1) n)
  let leading := all.take (count + 1)
  let ds := if allZeros then withZeros (count + 1) leading else withoutZeros leading
  pointed keepPoint 1 ds ++ powerOfTen capitals (all.length - 1)

/-- The amount `n` as it is written in a place. -/
def FractionForm.write (capitals : Bool) (p : Place) (n : Nat) : FractionForm → List Char
  | fixed =>
    let ds := Text.Numeral.digits n
    pointed p.alternate ds.length
      (withZeros (ds.length + p.precision?.getD usualPrecision) ds)
  | exponent => inExponent capitals p.alternate true (p.precision?.getD usualPrecision) n
  | general =>
    let count := max 1 (p.precision?.getD usualPrecision)
    let ds := Text.Numeral.digits n
    if ds.length ≤ count then
      if p.alternate then pointed true ds.length (withZeros count ds) else ds
    else inExponent capitals p.alternate p.alternate (count - 1) n

end FixturePragmas.Log.Template
