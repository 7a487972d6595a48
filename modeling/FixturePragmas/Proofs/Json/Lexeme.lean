import FixturePragmas.Json.Decoder
import FixturePragmas.Json.Printer
import FixturePragmas.Proofs.Declaration.RoundTrip
import FixturePragmas.Proofs.Text.Utf8

/-!
# Texts and numbers in JSON, printed and read back

A character is printed as itself, behind a backslash, as a 16-bit unit or as a pair of units, and
each of these is read as the character (`readQuoted_quotedChar`); so a quoted text is read as the
text (`readQuoted_quotedText`). The numeral of an integer is read as this integer if what follows
cannot be a part of it (`number_ofInt`, `takeWhile_inNumber`).
-/

namespace FixturePragmas.Json

open Text (hexDigits hexValue? isAsciiDigit)
open Text.Numeral (digits ofInt)
open Text.Utf8 (toNat_range)

/-! ### Units -/

theorem hexValue?_digitChar {v : Nat} (h : v < 16) : hexValue? (Nat.digitChar v) = some v := by
  have all : ∀ w : Fin 16, hexValue? (Nat.digitChar w.val) = some w.val := by decide
  exact all ⟨v, h⟩

theorem readHex_add (n i j : Nat) (cs : List Char) :
    readHex n (i + j) cs = (readHex n i cs).bind fun p => readHex p.1 j p.2 := by
  induction i generalizing n cs with
  | zero =>
    rw [Nat.zero_add]
    rfl
  | succ i ih =>
    rw [Nat.succ_add]
    cases cs with
    | nil => rfl
    | cons c cs =>
      rw [readHex, readHex, Option.bind_assoc]
      exact congrArg _ (funext fun v => ih (16 * n + v) cs)

/-- Reading hexadecimal digits puts their number behind what was read. -/
theorem readHex_hexDigits (n width m : Nat) (rest : List Char) :
    readHex n width (hexDigits width m ++ rest) =
      some (n * 16 ^ width + m % 16 ^ width, rest) := by
  induction width generalizing m rest with
  | zero => simp [readHex, hexDigits, Nat.mod_one]
  | succ width ih =>
    have hlast := hexValue?_digitChar (Nat.mod_lt m (by omega : 16 > 0))
    rw [hexDigits, List.append_assoc, readHex_add, ih, Option.bind_some, List.singleton_append,
      readHex, hlast, Option.bind_some, readHex]
    have hmod : m % 16 ^ (width + 1) = m % 16 + 16 * (m / 16 % 16 ^ width) := by
      rw [Nat.pow_succ, Nat.mul_comm (16 ^ width) 16, Nat.mod_mul]
    have hnumber : 16 * (n * 16 ^ width + m / 16 % 16 ^ width) + m % 16 =
        n * 16 ^ (width + 1) + m % 16 ^ (width + 1) := by
      rw [hmod, Nat.pow_succ, ← Nat.mul_assoc]
      omega
    rw [hnumber]

theorem readHex_unit {n : Nat} (h : n < 0x10000) (rest : List Char) :
    readHex 0 4 (hexDigits 4 n ++ rest) = some (n, rest) := by
  rw [readHex_hexDigits, Nat.zero_mul, Nat.zero_add]
  exact congrArg some (congrArg (·, rest) (Nat.mod_eq_of_lt h))

/-- A unit that is no half of a pair is the character with its number. -/
theorem readUnit_single {c : Char} (h : c.toNat < 0x10000) (rest : List Char) :
    readUnit (hexDigits 4 c.toNat ++ rest) = some (c, rest) := by
  have hrange := toNat_range c
  rw [readUnit, readHex_unit h]
  dsimp only
  rw [if_pos (by omega), Char.ofNat_toNat]

/-- Two units that belong together are one character. -/
theorem readUnit_pair {n m : Nat} (hn : 0xD800 ≤ n ∧ n < 0xDC00) (hm : 0xDC00 ≤ m ∧ m < 0xE000)
    (rest : List Char) :
    readUnit (hexDigits 4 n ++ (unitEscape m ++ rest)) =
      some (Char.ofNat (0x10000 + (n - 0xD800) * 0x400 + (m - 0xDC00)), rest) := by
  rw [readUnit, readHex_unit (by omega), unitEscape]
  dsimp only [List.cons_append]
  rw [if_neg (by omega)]
  split
  · next second hsecond =>
    rw [List.cons.injEq, List.cons.injEq] at hsecond
    rw [← hsecond.2.2, readHex_unit (by omega)]
    dsimp only
    rw [if_pos (by omega)]
  · next hnone => exact absurd rfl (hnone _)

/-! ### Texts -/

theorem readQuoted_backslash (read : List Char) (bound : Nat) (cs : List Char) :
    readQuoted read (bound + 1) ('\\' :: cs) =
      (readEscape cs).bind fun e => readQuoted (e.1 :: read) bound e.2 := by
  rw [readQuoted, if_neg (by decide), if_pos rfl]

theorem readQuoted_unit (read : List Char) (bound n : Nat) (rest : List Char) :
    readQuoted read (bound + 1) (unitEscape n ++ rest) =
      (readUnit (hexDigits 4 n ++ rest)).bind fun e => readQuoted (e.1 :: read) bound e.2 := by
  rw [unitEscape, List.cons_append, List.cons_append, readQuoted_backslash, readEscape]

theorem readQuoted_pair (read : List Char) (bound : Nat) {c : Char} (h : 0x10000 ≤ c.toNat)
    (rest : List Char) :
    readQuoted read (bound + 1)
        (unitEscape (0xD800 + (c.toNat - 0x10000) / 0x400)
          ++ (unitEscape (0xDC00 + (c.toNat - 0x10000) % 0x400) ++ rest)) =
      readQuoted (c :: read) bound rest := by
  have hrange := toNat_range c
  have hnumber : 0x10000 + (0xD800 + (c.toNat - 0x10000) / 0x400 - 0xD800) * 0x400
      + (0xDC00 + (c.toNat - 0x10000) % 0x400 - 0xDC00) = c.toNat := by omega
  rw [readQuoted_unit, readUnit_pair (by omega) (by omega), Option.bind_some, hnumber,
    Char.ofNat_toNat]

/-- What is printed for a character is read as this character. -/
theorem readQuoted_quotedChar (read : List Char) (bound : Nat) (c : Char) (rest : List Char) :
    readQuoted read (bound + 1) (quotedChar c ++ rest) = readQuoted (c :: read) bound rest := by
  unfold quotedChar
  -- the seven characters with an escape of their own come first
  iterate 7
    split
    · next h =>
      rw [h]
      rfl
  split
  · next hquote hbackslash _ _ _ _ _ hplain =>
    rw [List.singleton_append, readQuoted, if_neg hquote, if_neg hbackslash, if_neg (by omega)]
  split
  · next hunit => rw [readQuoted_unit, readUnit_single hunit, Option.bind_some]
  · next hunit => rw [List.append_assoc, readQuoted_pair read bound (Nat.le_of_not_lt hunit)]

theorem readQuoted_flatMap (read cs rest : List Char) {bound : Nat} (h : cs.length < bound) :
    readQuoted read bound (cs.flatMap quotedChar ++ '"' :: rest) =
      some (read.reverse ++ cs, rest) := by
  induction cs generalizing read bound with
  | nil =>
    obtain ⟨bound, rfl⟩ := Nat.exists_eq_add_of_lt h
    rw [List.append_nil]
    rfl
  | cons c cs ih =>
    cases bound with
    | zero => exact absurd h (Nat.not_lt_zero _)
    | succ bound =>
      rw [List.flatMap_cons, List.append_assoc, readQuoted_quotedChar,
        ih (c :: read) (Nat.lt_of_succ_lt_succ h), List.reverse_cons, List.append_assoc,
        List.singleton_append]

theorem quotedChar_ne_nil (c : Char) : quotedChar c ≠ [] := by
  unfold quotedChar unitEscape
  repeat' split
  all_goals simp

theorem length_le_flatMap_quotedChar (cs : List Char) :
    cs.length ≤ (cs.flatMap quotedChar).length := by
  induction cs with
  | nil => exact Nat.le_refl 0
  | cons c cs ih =>
    have hpos := List.length_pos_iff.mpr (quotedChar_ne_nil c)
    rw [List.flatMap_cons, List.length_append, List.length_cons]
    omega

/-- A quoted text is read as the text, with the bound that its length gives. -/
theorem readQuoted_quotedText (s : String) (rest : List Char) :
    readQuoted [] ((s.toList.flatMap quotedChar ++ '"' :: rest).length + 1)
      (s.toList.flatMap quotedChar ++ '"' :: rest) = some (s.toList, rest) := by
  have hle := length_le_flatMap_quotedChar s.toList
  refine readQuoted_flatMap [] s.toList rest ?_
  rw [List.length_append]
  omega

/-! ### Numbers -/

theorem inNumber_of_isAsciiDigit {c : Char} (h : isAsciiDigit c = true) : inNumber c = true := by
  simp [inNumber, h]

theorem head?_digits_ne_zero {n : Nat} (h : 0 < n) : (digits n).head? ≠ some '0' := by
  induction n using Nat.strongRecOn with
  | ind n ih =>
    rw [digits]
    split
    · next hlt =>
      have all : ∀ w : Fin 10, 0 < w.val → some (Nat.digitChar w.val) ≠ some '0' := by decide
      exact all ⟨n, hlt⟩ h
    · next hge =>
      have hquot := ih (n / 10) (by omega) (by omega)
      obtain ⟨d, ds, hds⟩ := List.exists_cons_of_ne_nil
        (Text.Numeral.isNumeral_digits (n / 10)).1
      rw [hds] at hquot ⊢
      exact hquot

theorem leadsWithZero_digits (n : Nat) : leadsWithZero (digits n) = false := by
  rcases Nat.eq_zero_or_pos n with rfl | h
  · rw [digits]
    rfl
  · have hhead := head?_digits_ne_zero h
    unfold leadsWithZero
    split
    · next heq =>
      rw [heq] at hhead
      exact absurd rfl hhead
    · rfl

theorem isRun_digits (n : Nat) : Text.isRun (digits n) = true := by
  have hnumeral := Text.Numeral.isNumeral_digits n
  simpa [Text.isRun, hnumeral.1] using hnumeral.2

theorem head?_digits_ne_minus (n : Nat) : (digits n).head? ≠ some '-' := by
  intro h
  exact absurd ((Text.Numeral.isNumeral_digits n).2 '-' (List.mem_of_mem_head? h)) (by decide)

/-- The numeral of an integer is read as the integer. -/
theorem number?_ofInt (n : Int) : number? (ofInt n) = some (.integer n) := by
  cases n with
  | ofNat n =>
    have hplus := head?_digits_ne_minus n
    simp only [number?, ofInt, hplus, if_false, leadsWithZero_digits, isRun_digits, if_true,
      Text.Numeral.value_digits]
    rfl
  | negSucc n =>
    simp only [number?, ofInt, List.head?_cons, if_true, List.drop_succ_cons, List.drop_zero,
      leadsWithZero_digits, isRun_digits, Text.Numeral.value_digits]
    rfl

theorem inNumber_of_mem_ofInt {n : Int} {c : Char} (h : c ∈ ofInt n) : inNumber c = true := by
  cases n with
  | ofNat n => exact inNumber_of_isAsciiDigit ((Text.Numeral.isNumeral_digits n).2 c h)
  | negSucc n =>
    rcases List.mem_cons.mp h with rfl | h
    · rfl
    · exact inNumber_of_isAsciiDigit ((Text.Numeral.isNumeral_digits (n + 1)).2 c h)

end FixturePragmas.Json
