import FixturePragmas.Log.Template.Place
import FixturePragmas.Text.Quoted

/-!
# Message templates

A message of the log may be a template with arguments. A percent sign starts a place for one
argument: flags, a width, a precision after a dot, a letter for a size, which means nothing, and the
letter of a conversion; two percent signs stand for one. An asterisk for a width or precision takes
an argument of its own. A message without arguments is no template and stays as it is.

Places are read and filled one after the other, and the first fault decides. In a place the width
comes first, then the precision, then whether the place is complete, then the argument, and only
then the letter of the conversion.
-/

namespace FixturePragmas.Log

/-- An argument of a template. -/
inductive Argument where
  | text (s : String)
  | number (n : Int)
  deriving DecidableEq, Repr

/-- The text of an argument. -/
def Argument.shown : Argument → List Char
  | text s => s.toList
  | number n => Text.Numeral.ofInt n

/-- The text of an argument between quotes, or the number. -/
def Argument.quoted (quote : List Char → List Char) : Argument → List Char
  | text s => quote s.toList
  | number n => Text.Numeral.ofInt n

namespace Template

/-- The two sizes of a place. -/
inductive Size where
  | width
  | precision
  deriving DecidableEq, Repr

namespace Size

/-- The word for a size. -/
def name : Size → String
  | width => "width"
  | precision => "precision"

/-- The greatest number that each size may be. -/
def limit : Size → Nat
  | width => Nat.pow 2 63 - 1
  | precision => Nat.pow 2 31 - 1

/-- The name of the type of numbers that goes as far as a size. -/
def typeName : Size → String
  | width => "ssize_t"
  | precision => "int"

end Size

/-- Why a template cannot be filled. -/
inductive Error where
  /-- There are more places than arguments. -/
  | tooFewArguments
  /-- There are more arguments than places. -/
  | tooManyArguments
  /-- A place asks for an argument by its name, and arguments have none. -/
  | namesRequired
  /-- The argument for a size is no number. -/
  | sizeNotANumber
  /-- A size is written with a number that is too large. -/
  | sizeTooBig (s : Size)
  /-- The argument for a size is out of its range. -/
  | sizeOutOfRange (s : Size)
  /-- The template ends within a place. -/
  | incomplete
  /-- No conversion has this letter, which stands at this index of the template. -/
  | unsupported (letter : Char) (index : Nat)
  /-- The conversion needs a number. -/
  | numberRequired (letter : Char)
  /-- The conversion needs a number, which may have a fraction. -/
  | fractionRequired
  /-- The conversion needs one character, or the number of one. -/
  | characterRequired
  /-- No character has this number. -/
  | noSuchCharacter
  /-- The number is too large to be written with a fraction. -/
  | fractionOutOfRange
  /-- There cannot be so many digits. -/
  | tooManyDigits
  /-- There cannot be so long a text. -/
  | tooLong
  deriving DecidableEq, Repr

/-- A letter as it is shown in a message. -/
def shownLetter (c : Char) : Char := if 0x1F ≤ c.toNat ∧ c.toNat < 0x7F then c else '?'

/-- The wording of a fault. -/
def Error.message : Error → String
  | tooFewArguments => "not enough arguments for format string"
  | tooManyArguments => "not all arguments converted during string formatting"
  | namesRequired => "format requires a mapping"
  | sizeNotANumber => "* wants int"
  | sizeTooBig s => s!"{s.name} too big"
  | sizeOutOfRange s => s!"Python int too large to convert to C {s.typeName}"
  | incomplete => "incomplete format"
  | unsupported letter index =>
    s!"unsupported format character '{shownLetter letter}' (0x"
      ++ String.ofList (Nat.toDigits 16 letter.toNat) ++ s!") at index {index}"
  | numberRequired letter =>
    let isDecimal := letter = 'd' ∨ letter = 'i' ∨ letter = 'u'
    let wanted := if isDecimal then "a real number" else "an integer"
    s!"%{letter} format: {wanted} is required, not str"
  | fractionRequired => "must be real number, not str"
  | characterRequired => "%c requires int or char"
  | noSuchCharacter => "%c arg not in range(0x110000)"
  | fractionOutOfRange => "int too large to convert to float"
  | tooManyDigits => "precision too large"
  | tooLong => ""

/-! ### Reading a place -/

/-- What is left to be read and to be written: the rest of a template and of its arguments. -/
structure Rest where
  text : List Char
  arguments : List Argument
  deriving DecidableEq, Repr

/-- The next argument. -/
def takeArgument (r : Rest) : Except Error (Argument × Rest) :=
  match r.arguments with
  | [] => .error .tooFewArguments
  | a :: as => .ok (a, { r with arguments := as })

/-- A size, if one is given: an asterisk and an argument, or digits. -/
def takeSize (s : Size) (r : Rest) : Except Error (Option Int × Rest) :=
  match r.text with
  | '*' :: cs => do
    match ← takeArgument { r with text := cs } with
    | (.text _, _) => throw .sizeNotANumber
    | (.number n, r') =>
      -- numbers of a machine word reach one further down than up
      if -(s.limit : Int) - 1 ≤ n ∧ n ≤ s.limit then return (some n, r')
      else throw (.sizeOutOfRange s)
  | cs =>
    let ds := cs.takeWhile Text.isAsciiDigit
    let n := Text.Numeral.value (ds.map Text.Numeral.asciiValue)
    if ds = [] then .ok (none, r)
    else if n ≤ s.limit then .ok (some n, { r with text := cs.dropWhile Text.isAsciiDigit })
    else .error (.sizeTooBig s)

/-- The precision behind a dot; a dot alone, or a negative number, means zero. -/
def takePrecision (r : Rest) : Except Error (Option Nat × Rest) :=
  match r.text with
  | '.' :: cs =>
    (takeSize .precision { r with text := cs }).map fun p => (some (p.1.getD 0).toNat, p.2)
  | _ => .ok (none, r)

/-- The characters of flags. -/
def isFlag (c : Char) : Bool := c == '-' || c == '0' || c == '+' || c == ' ' || c == '#'

/-- The letters for sizes of numbers, which mean nothing. -/
def isSizeLetter (c : Char) : Bool := c == 'h' || c == 'l' || c == 'L'

/-- The text without one letter for a size. -/
def skipSizeLetter : List Char → List Char
  | [] => []
  | c :: cs => if isSizeLetter c then cs else c :: cs

/-- The place described behind a percent sign, the letter of its conversion, and the rest. A
negative width means that the value stands on the left. -/
def takePlace (r : Rest) : Except Error (Place × Char × Rest) := do
  if r.text.head? = some '(' then throw .namesRequired
  let flags := r.text.takeWhile isFlag
  let (width?, r) ← takeSize .width { r with text := r.text.dropWhile isFlag }
  let (precision?, r) ← takePrecision r
  let width := width?.getD 0
  let place : Place :=
    { left := '-' ∈ flags || decide (width < 0), zero := '0' ∈ flags, plus := '+' ∈ flags,
      blank := ' ' ∈ flags, alternate := '#' ∈ flags, width := width.natAbs, precision? }
  match skipSizeLetter r.text with
  | [] => throw .incomplete
  | letter :: cs => return (place, letter, { r with text := cs })

/-! ### Conversions -/

/-- A number to another base, with the letters of its digits in capitals or not. -/
def toBase (base : Nat) (capitals : Bool) (n : Nat) : List Char :=
  let ds := Nat.toDigits base n
  if capitals then ds.map Char.toUpper else ds

/-- What an integer conversion writes before its digits, and the digits of an amount. -/
def wholeForm? (letter : Char) : Option (List Char × (Nat → List Char)) :=
  if letter = 'd' ∨ letter = 'i' ∨ letter = 'u' then some ([], Text.Numeral.digits)
  else if letter = 'x' then some (['0', 'x'], toBase 16 false)
  else if letter = 'X' then some (['0', 'X'], toBase 16 true)
  else if letter = 'o' then some (['0', 'o'], toBase 8 false)
  else none

/-- How a conversion writes a number with a fraction, and whether in capitals. -/
def fractionForm? (letter : Char) : Option (FractionForm × Bool) :=
  if letter = 'f' ∨ letter = 'F' then some (.fixed, letter = 'F')
  else if letter = 'e' ∨ letter = 'E' then some (.exponent, letter = 'E')
  else if letter = 'g' ∨ letter = 'G' then some (.general, letter = 'G')
  else none

/-- A whole number in its place. There may be a few digits less than the limit of a precision. -/
def writeWhole (p : Place) (mark : List Char) (digits : Nat → List Char) (n : Int) :
    Except Error (List Char) :=
  let precision := p.precision?.getD 0
  if Size.precision.limit - 3 < precision then .error .tooManyDigits
  else if longestText < precision then .error .tooLong
  else .ok (p.whole (n < 0) mark (digits n.natAbs))

/-- A number in its place as one with a fraction, of which only the leading bits are kept. -/
def writeFraction (p : Place) (form : FractionForm) (capitals : Bool) (n : Int) :
    Except Error (List Char) :=
  let kept := Text.toLeading 2 bitsKept n.natAbs
  let zeros := form ≠ .general ∨ p.alternate
  if fractionBound ≤ kept then .error .fractionOutOfRange
  else if zeros ∧ longestText < p.precision?.getD usualPrecision then .error .tooLong
  else .ok (p.signed (n < 0) [] (form.write capitals p kept))

/-- The argument `a` in the place `p`, converted as `letter` says; the letter has the index `index`.
-/
def convert (p : Place) (letter : Char) (index : Nat) (a : Argument) : Except Error (List Char) :=
  if letter = 's' then .ok (p.text a.shown)
  else if letter = 'r' then .ok (p.text (a.quoted Text.quotedChars))
  else if letter = 'a' then .ok (p.text (a.quoted Text.quotedAscii))
  else if letter = 'c' then
    match a with
    | .text s =>
      match s.toList with
      | [c] => .ok (p.pad [c])
      | _ => .error .characterRequired
    | .number n =>
      if 0 ≤ n ∧ Nat.isValidChar n.toNat then .ok (p.pad [Char.ofNat n.toNat])
      else .error .noSuchCharacter
  else
    match wholeForm? letter, fractionForm? letter, a with
    | some (mark, digits), _, .number n => writeWhole p mark digits n
    | some _, _, .text _ => .error (.numberRequired letter)
    | none, some (form, capitals), .number n => writeFraction p form capitals n
    | none, some _, .text _ => .error .fractionRequired
    | none, none, _ => .error (.unsupported letter index)

/-- The argument in its place, unless the place is too wide for a text. -/
def fillPlace (p : Place) (letter : Char) (index : Nat) (a : Argument) : Except Error (List Char) :=
  if p.width ≤ longestText then convert p letter index a
  -- a fault in the conversion itself comes before the one that the text is too long
  else (convert { p with width := 0 } letter index a).bind fun _ => .error .tooLong

/-! ### Filling a template -/

/-- Fill the rest of a template of `length` characters. -/
def fillFrom (length : Nat) : (bound : Nat) → Rest → Except Error (List Char)
  | 0, _ => .ok []
  | bound + 1, r =>
    match r.text with
    | [] => if r.arguments = [] then .ok [] else .error .tooManyArguments
    | '%' :: '%' :: cs => (fillFrom length bound { r with text := cs }).map ('%' :: ·)
    | c :: cs =>
      if c = '%' then do
        let (place, letter, r) ← takePlace { r with text := cs }
        let (a, r) ← takeArgument r
        -- an index is told by how much of the template is left
        let text ← fillPlace place letter (length - r.text.length - 1) a
        return text ++ (← fillFrom length bound r)
      else (fillFrom length bound { r with text := cs }).map (c :: ·)

/-- The message of the template `cs` with the arguments `as`. -/
def fill (cs : List Char) (as : List Argument) : Except Error (List Char) :=
  if as = [] then .ok cs else fillFrom cs.length (cs.length + 1) ⟨cs, as⟩

end Template

end FixturePragmas.Log
