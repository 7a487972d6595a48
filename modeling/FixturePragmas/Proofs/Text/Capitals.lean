import FixturePragmas.Proofs.Text.Case
import FixturePragmas.Text.Numeral

/-!
# Digits and ASCII letters in capitals

What counts as a digit has no letter case: it is its own capital form, and the capital form of any
other character has nothing in it that counts as a digit (`isDigitLike_of_mem_upperChar`). So whether
a text is made of digits can be asked before or after it is put into capitals, and a text of digits
stays as it is (`upper_of_digits`). Of the characters of ASCII the small letters alone change, as one
expects (`upper_of_ascii`).
-/

namespace FixturePragmas.Text

open CaseTable

/-! ### Where no digits are -/

/-- Whether nothing from `low` to `high` counts as a digit. -/
def noDigitBetween (low high : Nat) : Bool :=
  digitRanges.all fun r => r.2.blt low || high.blt r.1

theorem isDigitLike_eq_false_of_between {low high : Nat} (h : noDigitBetween low high = true)
    {c : Char} (hlow : low ≤ c.toNat) (hhigh : c.toNat ≤ high) : isDigitLike c = false := by
  rw [← Bool.not_eq_true]
  intro hdigit
  obtain ⟨r, hr, hfirst, hlast⟩ := inRanges_iff.mp hdigit
  have hapart := List.all_eq_true.mp h r hr
  rw [Bool.or_eq_true, Nat.blt_eq, Nat.blt_eq] at hapart
  omega

/-- Letters that move are no digits, and move to none. -/
theorem noDigitBetween_upperRuns :
    ∀ u ∈ upperRuns, noDigitBetween u.first u.last = true ∧
      noDigitBetween (u.first + u.shift).toNat (u.last + u.shift).toNat = true := by
  have hall : (upperRuns.all fun u => noDigitBetween u.first u.last &&
      noDigitBetween (u.first + u.shift).toNat (u.last + u.shift).toNat) = true := by
    decide +kernel
  exact fun u hu => Bool.and_eq_true_iff.mp (List.all_eq_true.mp hall u hu)

/-- Letters that become several characters are no digits, and become none. -/
theorem noDigitBetween_upperSequences :
    ∀ s ∈ upperSequences, noDigitBetween s.1 s.1 = true ∧
      s.2 ≠ [] ∧ ∀ n ∈ s.2, isDigitLike (Char.ofNat n) = false := by
  decide +kernel

/-- Decimal digits count as digits. -/
theorem isDigitLike_of_decimalValue? {c : Char} {v : Nat} (h : decimalValue? c = some v) :
    isDigitLike c = true := by
  have hzeros : ∀ z ∈ zeroDigits, ∃ r ∈ digitRanges, r.1 ≤ z ∧ z + 9 ≤ r.2 := by decide +kernel
  obtain ⟨z, hz, -⟩ := Option.map_eq_some_iff.mp h
  have hbounds := List.find?_some hz
  rw [decide_eq_true_eq] at hbounds
  obtain ⟨r, hr, hlow, hhigh⟩ := hzeros z (List.mem_of_find?_eq_some hz)
  exact inRanges_iff.mpr ⟨r, hr, by omega, by omega⟩

/-! ### Digits -/

theorem upperSequences_lookup_eq_none {n : Nat} (h : ∀ s ∈ upperSequences, s.1 ≠ n) :
    upperSequences.lookup n = none :=
  List.lookup_eq_none_iff.mpr fun s hs => bne_iff_ne.mpr fun heq => h s hs heq.symm

theorem mem_of_upperSequences_lookup {n : Nat} {ns : List Nat}
    (h : upperSequences.lookup n = some ns) : (n, ns) ∈ upperSequences := by
  obtain ⟨before, after, hsplit, -⟩ := List.lookup_eq_some_iff.mp h
  rw [hsplit]
  exact List.mem_append_right before List.mem_cons_self

/-- A letter that moves lies in a run, and moves by its distance. -/
theorem exists_run_of_move?_eq_some {rs : List Run} {c d : Char} (h : Run.move? rs c = some d) :
    ∃ r ∈ rs, r.first ≤ c.toNat ∧ c.toNat ≤ r.last ∧
      d = Char.ofNat ((c.toNat : Int) + r.shift).toNat := by
  obtain ⟨r, hr, rfl⟩ := Option.map_eq_some_iff.mp h
  have hhas := List.find?_some hr
  simp only [Run.has, Bool.and_eq_true, decide_eq_true_eq] at hhas
  exact ⟨r, List.mem_of_find?_eq_some hr, hhas.1.1, hhas.1.2, rfl⟩

theorem upperChar_of_isDigitLike {c : Char} (h : isDigitLike c = true) : upperChar c = [c] := by
  have hsequence : upperSequences.lookup c.toNat = none := by
    refine upperSequences_lookup_eq_none fun s hs heq => ?_
    have hno := isDigitLike_eq_false_of_between (noDigitBetween_upperSequences s hs).1
      (Nat.le_of_eq heq) (Nat.le_of_eq heq.symm)
    exact absurd (h.symm.trans hno) (by decide)
  have hrun : Run.move? upperRuns c = none := by
    rw [Option.eq_none_iff_forall_ne_some]
    intro d hd
    obtain ⟨u, hu, hfirst, hlast, -⟩ := exists_run_of_move?_eq_some hd
    have hno := isDigitLike_eq_false_of_between (noDigitBetween_upperRuns u hu).1 hfirst hlast
    exact absurd (h.symm.trans hno) (by decide)
  rw [upperChar, hsequence, hrun]
  rfl

/-- The number of a character is the one it is made from, or zero. -/
theorem toNat_ofNat_eq_or (n : Nat) : (Char.ofNat n).toNat = n ∨ (Char.ofNat n).toNat = 0 := by
  by_cases h : n.isValidChar
  · left
    rw [Char.ofNat, dif_pos h]
    rfl
  · right
    rw [Char.ofNat, dif_neg h]
    rfl

/-- What is no digit has none in its capital form. -/
theorem isDigitLike_of_mem_upperChar {c d : Char} (hd : d ∈ upperChar c) :
    isDigitLike d = isDigitLike c := by
  cases hc : isDigitLike c with
  | true =>
    rw [upperChar_of_isDigitLike hc, List.mem_singleton] at hd
    rw [hd, hc]
  | false =>
    unfold upperChar at hd
    split at hd
    · next ns hns =>
      obtain ⟨n, hn, rfl⟩ := List.mem_map.mp hd
      exact (noDigitBetween_upperSequences _ (mem_of_upperSequences_lookup hns)).2.2 n hn
    · rw [List.mem_singleton] at hd
      cases hmove : Run.move? upperRuns c with
      | none =>
        rw [hd, hmove]
        exact hc
      | some d' =>
        obtain ⟨u, hu, hfirst, hlast, rfl⟩ := exists_run_of_move?_eq_some hmove
        rw [hd, hmove, Option.getD_some]
        -- the moved letter lies in the moved run, or is NUL; there are digits in neither
        rcases toNat_ofNat_eq_or ((c.toNat : Int) + u.shift).toNat with hmoved | hzero
        · exact isDigitLike_eq_false_of_between (noDigitBetween_upperRuns u hu).2
            (by omega) (by omega)
        · have hnone : noDigitBetween 0 0 = true := by decide
          exact isDigitLike_eq_false_of_between hnone (Nat.zero_le _) (Nat.le_of_eq hzero)

theorem upperChar_ne_nil (c : Char) : upperChar c ≠ [] := by
  unfold upperChar
  split
  · next ns hns =>
    have hne := (noDigitBetween_upperSequences _ (mem_of_upperSequences_lookup hns)).2.1
    exact fun hnil => hne (List.map_eq_nil_iff.mp hnil)
  · exact List.cons_ne_nil _ _

theorem upper_cons (c : Char) (cs : List Char) : upper (c :: cs) = upperChar c ++ upper cs :=
  List.flatMap_cons

theorem upper_eq_nil_iff {cs : List Char} : upper cs = [] ↔ cs = [] := by
  cases cs with
  | nil => exact ⟨fun _ => rfl, fun _ => rfl⟩
  | cons c cs =>
    rw [upper_cons, List.append_eq_nil_iff]
    exact ⟨fun h => absurd h.1 (upperChar_ne_nil c), fun h => absurd h (List.cons_ne_nil c cs)⟩

theorem all_isDigitLike_upper (cs : List Char) :
    (upper cs).all isDigitLike = cs.all isDigitLike := by
  induction cs with
  | nil => rfl
  | cons c cs ih =>
    have hchar : (upperChar c).all isDigitLike = isDigitLike c := by
      cases hupper : upperChar c with
      | nil => exact absurd hupper (upperChar_ne_nil c)
      | cons d ds =>
        have hall : ∀ e ∈ d :: ds, isDigitLike e = isDigitLike c := fun e he =>
          isDigitLike_of_mem_upperChar (hupper ▸ he)
        cases hc : isDigitLike c with
        | true => exact List.all_eq_true.mpr fun e he => (hall e he).trans hc
        | false =>
          rw [List.all_cons, hall d List.mem_cons_self, hc, Bool.false_and]
    rw [upper_cons, List.all_append, hchar, ih, List.all_cons]

theorem upper_of_digits {cs : List Char} (h : ∀ c ∈ cs, isDigitLike c = true) : upper cs = cs := by
  induction cs with
  | nil => rfl
  | cons c cs ih =>
    rw [List.forall_mem_cons] at h
    rw [upper_cons, upperChar_of_isDigitLike h.1, ih h.2]
    rfl

/-! ### Letters of ASCII -/

/-- Of the characters of ASCII only those of the first run have another capital form. -/
theorem upperChar_of_ascii {c : Char} (h : c.toNat < 128) : upperChar c = [c.toUpper] := by
  have hsequences : ∀ s ∈ upperSequences, 128 ≤ s.1 := by decide +kernel
  have hothers : ∀ r ∈ upperRuns.tail, 128 ≤ r.first := by decide +kernel
  have hsequence : upperSequences.lookup c.toNat = none := by
    refine upperSequences_lookup_eq_none fun s hs heq => ?_
    have hkey := hsequences s hs
    omega
  -- of all runs only the first reaches into ASCII
  have hruns : Run.move? upperRuns c =
      if 0x61 ≤ c.toNat ∧ c.toNat ≤ 0x7A then some (Char.ofNat ((c.toNat : Int) + -32).toNat)
      else none :=
    move?_cons_of_lt (r := ⟨0x61, 0x7A, 1, -32⟩) rfl
      fun r hr => Nat.lt_of_lt_of_le h (hothers r hr)
  have hsingle : upperChar c = [(Run.move? upperRuns c).getD c] := by rw [upperChar, hsequence]
  rw [hsingle, hruns]
  split
  · next hc =>
    have hletters : ∀ n : Fin 26,
        Char.ofNat (((0x61 + n : Nat) : Int) + -32).toNat = (Char.ofNat (0x61 + n)).toUpper := by
      decide
    have hletter := hletters ⟨c.toNat - 0x61, by omega⟩
    have hcode : 0x61 + (c.toNat - 0x61) = c.toNat := by omega
    rw [hcode, Char.ofNat_toNat] at hletter
    exact congrArg (fun c => [c]) hletter
  · next hc =>
    have hfixed : c.toUpper = c := dif_neg hc
    rw [hfixed]
    rfl

theorem upper_of_ascii {cs : List Char} (h : ∀ c ∈ cs, c.toNat < 128) :
    upper cs = cs.map Char.toUpper := by
  induction cs with
  | nil => rfl
  | cons c cs ih =>
    rw [List.forall_mem_cons] at h
    rw [upper_cons, upperChar_of_ascii h.1, ih h.2]
    rfl

/-- A character is in ASCII if its capital form there is. -/
theorem ascii_of_toUpper {c : Char} (h : c.toUpper.toNat < 128) : c.toNat < 128 := by
  by_cases hc : 0x61 ≤ c.toNat ∧ c.toNat ≤ 0x7A
  · omega
  · have hfixed : c.toUpper = c := dif_neg hc
    rwa [hfixed] at h

end FixturePragmas.Text
