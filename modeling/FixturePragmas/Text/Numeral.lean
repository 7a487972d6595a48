import FixturePragmas.Text.CodePoints

/-!
# Decimal numerals

A numeral is a run of decimal digits of any script. It is read as a natural number, unless it is
longer than `Numeral.limit` digits, leading zeros counted: such numerals are refused as too long to
convert. `ofDigits` reads a run that is known to consist of the ten ASCII digits, `read` any text.
-/

namespace FixturePragmas.Text

/-- The zeros of the scripts; the nine other digits of a script follow its zero. -/
def zeroDigits : List Nat :=
  [
   0x30, 0x660, 0x6F0, 0x7C0, 0x966, 0x9E6, 0xA66, 0xAE6, 0xB66, 0xBE6, 0xC66, 0xCE6, 0xD66,
   0xDE6, 0xE50, 0xED0, 0xF20, 0x1040, 0x1090, 0x17E0, 0x1810, 0x1946, 0x19D0, 0x1A80, 0x1A90,
   0x1B50, 0x1BB0, 0x1C40, 0x1C50, 0xA620, 0xA8D0, 0xA900, 0xA9D0, 0xA9F0, 0xAA50, 0xABF0, 0xFF10,
   0x104A0, 0x10D30, 0x11066, 0x110F0, 0x11136, 0x111D0, 0x112F0, 0x11450, 0x114D0, 0x11650,
   0x116C0, 0x11730, 0x118E0, 0x11950, 0x11C50, 0x11D50, 0x11DA0, 0x16A60, 0x16AC0, 0x16B50,
   0x1D7CE, 0x1D7D8, 0x1D7E2, 0x1D7EC, 0x1D7F6, 0x1E140, 0x1E2F0, 0x1E950, 0x1FBF0]

/-- The characters that count as digits: decimal digits of all scripts, and digits that are raised,
lowered, circled or otherwise decorated and have no decimal value. -/
def digitRanges : List (Nat × Nat) :=
  [
   (0x30, 0x39), (0xB2, 0xB3), (0xB9, 0xB9), (0x660, 0x669), (0x6F0, 0x6F9), (0x7C0, 0x7C9),
   (0x966, 0x96F), (0x9E6, 0x9EF), (0xA66, 0xA6F), (0xAE6, 0xAEF), (0xB66, 0xB6F), (0xBE6, 0xBEF),
   (0xC66, 0xC6F), (0xCE6, 0xCEF), (0xD66, 0xD6F), (0xDE6, 0xDEF), (0xE50, 0xE59), (0xED0, 0xED9),
   (0xF20, 0xF29), (0x1040, 0x1049), (0x1090, 0x1099), (0x1369, 0x1371), (0x17E0, 0x17E9),
   (0x1810, 0x1819), (0x1946, 0x194F), (0x19D0, 0x19DA), (0x1A80, 0x1A89), (0x1A90, 0x1A99),
   (0x1B50, 0x1B59), (0x1BB0, 0x1BB9), (0x1C40, 0x1C49), (0x1C50, 0x1C59), (0x2070, 0x2070),
   (0x2074, 0x2079), (0x2080, 0x2089), (0x2460, 0x2468), (0x2474, 0x247C), (0x2488, 0x2490),
   (0x24EA, 0x24EA), (0x24F5, 0x24FD), (0x24FF, 0x24FF), (0x2776, 0x277E), (0x2780, 0x2788),
   (0x278A, 0x2792), (0xA620, 0xA629), (0xA8D0, 0xA8D9), (0xA900, 0xA909), (0xA9D0, 0xA9D9),
   (0xA9F0, 0xA9F9), (0xAA50, 0xAA59), (0xABF0, 0xABF9), (0xFF10, 0xFF19), (0x104A0, 0x104A9),
   (0x10A40, 0x10A43), (0x10D30, 0x10D39), (0x10E60, 0x10E68), (0x11052, 0x1105A),
   (0x11066, 0x1106F), (0x110F0, 0x110F9), (0x11136, 0x1113F), (0x111D0, 0x111D9),
   (0x112F0, 0x112F9), (0x11450, 0x11459), (0x114D0, 0x114D9), (0x11650, 0x11659),
   (0x116C0, 0x116C9), (0x11730, 0x11739), (0x118E0, 0x118E9), (0x11950, 0x11959),
   (0x11C50, 0x11C59), (0x11D50, 0x11D59), (0x11DA0, 0x11DA9), (0x16A60, 0x16A69),
   (0x16AC0, 0x16AC9), (0x16B50, 0x16B59), (0x1D7CE, 0x1D7FF), (0x1E140, 0x1E149),
   (0x1E2F0, 0x1E2F9), (0x1E950, 0x1E959), (0x1F100, 0x1F10A), (0x1FBF0, 0x1FBF9)]

/-- Whether `c` counts as a digit, decorated ones included. -/
def isDigitLike (c : Char) : Bool := inRanges digitRanges c

/-- The value of a decimal digit. -/
def decimalValue? (c : Char) : Option Nat :=
  (zeroDigits.find? fun z => decide (z ≤ c.toNat ∧ c.toNat ≤ z + 9)).map fun z => c.toNat - z

/-- Whether `c` is one of the ten digits of ASCII. -/
def isAsciiDigit (c : Char) : Bool := decide ('0' ≤ c ∧ c ≤ '9')

/-- The value of a hexadecimal digit. -/
def hexValue? (c : Char) : Option Nat :=
  if '0' ≤ c ∧ c ≤ '9' then some (c.toNat - '0'.toNat)
  else if 'a' ≤ c ∧ c ≤ 'f' then some (c.toNat - 'a'.toNat + 10)
  else if 'A' ≤ c ∧ c ≤ 'F' then some (c.toNat - 'A'.toNat + 10)
  else none

namespace Numeral

/-- The most digits a numeral may have. -/
def limit : Nat := 4300

/-- Why a text is not read as a number. -/
inductive Error where
  /-- The numeral has more digits than the limit. -/
  | tooLong (digits : Nat)
  /-- The text, shown in quotes, is not a numeral. -/
  | notANumeral (quoted : String)
  deriving DecidableEq, Repr

/-- The wording of the two faults. -/
def Error.message : Error → String
  | .tooLong digits =>
    s!"Exceeds the limit ({limit} digits) for integer string conversion: value has {digits} digits;"
      ++ " use sys.set_int_max_str_digits() to increase the limit"
  | .notANumeral quoted => s!"invalid literal for int() with base 10: {quoted}"

/-- The number whose digits, most significant first, are `vs`. -/
def value (vs : List Nat) : Nat := vs.foldl (fun n v => 10 * n + v) 0

/-- The value of one of the ten ASCII digits. -/
def asciiValue (c : Char) : Nat := c.toNat - '0'.toNat

/-- The number written by a run of ASCII digits. -/
def ofDigits (ds : List Char) : Except Error Nat :=
  if limit < ds.length then .error (.tooLong ds.length) else .ok (value (ds.map asciiValue))

/-- The values of the decimal digits a text starts with. -/
def leading : List Char → List Nat
  | [] => []
  | c :: cs =>
    match decimalValue? c with
    | some v => v :: leading cs
    | none => []

/-- The number written by `cs`: its digits are counted before anything else about it is judged, and
the numeral must be the whole text. `quoted` is the text as it is shown when it is none. -/
def read (cs : List Char) (quoted : String) : Except Error Nat :=
  let vs := leading cs
  if limit < vs.length then .error (.tooLong vs.length)
  else if vs.length = cs.length ∧ cs ≠ [] then .ok (value vs)
  else .error (.notANumeral quoted)

/-- The digits of `n`, most significant first and without leading zeros. -/
def digits (n : Nat) : List Char :=
  if n < 10 then [Nat.digitChar n] else digits (n / 10) ++ [Nat.digitChar (n % 10)]
termination_by n

/-- The numeral of an integer: its digits, behind a minus sign if it is negative. -/
def ofInt : Int → List Char
  | .ofNat n => digits n
  | .negSucc n => '-' :: digits (n + 1)

theorem asciiValue_digitChar {v : Nat} (h : v < 10) : asciiValue (Nat.digitChar v) = v := by
  have all : ∀ w : Fin 10, asciiValue (Nat.digitChar w.val) = w.val := by decide
  exact all ⟨v, h⟩

/-- Reading the digits of a number gives the number. -/
theorem value_digits (n : Nat) : value ((digits n).map asciiValue) = n := by
  induction n using Nat.strongRecOn with
  | ind n ih =>
    rw [digits]
    split
    · next h => simp [value, asciiValue_digitChar h]
    · next h =>
      have hq := ih (n / 10) (by omega)
      unfold value at hq ⊢
      rw [List.map_append, List.foldl_append, hq]
      simp only [List.map_cons, List.map_nil, List.foldl_cons, List.foldl_nil]
      rw [asciiValue_digitChar (Nat.mod_lt n (by omega))]
      omega

end Numeral

end FixturePragmas.Text
