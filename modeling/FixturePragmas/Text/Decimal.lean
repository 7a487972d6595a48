import FixturePragmas.Text.Numeral

/-!
# Numbers with a fraction or an exponent

The spelling of decimal numbers that several formats share: digits, then a point and digits, then a
letter and an exponent; the point part or the exponent may be missing, but not both.
-/

namespace FixturePragmas.Text

/-- Whether `ds` is a run of decimal digits. -/
def isRun (ds : List Char) : Bool := ds ≠ [] && ds.all isAsciiDigit

/-- Whether `cs` is an exponent: nothing, or a letter and digits, perhaps with a sign. -/
def isExponent (cs : List Char) : Bool :=
  match cs with
  | [] => true
  | c :: rest =>
    (c == 'e' || c == 'E')
      && (match rest with
        | d :: more => if d = '+' ∨ d = '-' then isRun more else isRun rest
        | [] => false)

/-- Whether `cs` is a number with a fraction, an exponent or both. -/
def isFraction (cs : List Char) : Bool :=
  let whole := cs.takeWhile isAsciiDigit
  whole ≠ [] && (match cs.dropWhile isAsciiDigit with
    | '.' :: rest =>
      rest.takeWhile isAsciiDigit ≠ [] && isExponent (rest.dropWhile isAsciiDigit)
    | rest => rest ≠ [] && isExponent rest)

end FixturePragmas.Text
