import FixturePragmas.Text.Case
import Mathlib.Data.List.TakeWhile

/-!
# The small form of the end of a text

A text ends in another, but need not do so in small letters: the small form of a capital sigma hangs
on the letters around it. What stands in front of a text has a say in its small form only at a sigma
before which the text has no letter of its own and behind which no letter stands (`FinalOnlyBehind`).
Any other text keeps its small form wherever it ends another one (`lower_suffix_iff`). A text in
ASCII has no such sigma, and is made small letter by letter (`lowerAfter_of_ascii`).
-/

namespace FixturePragmas.Text

open CaseTable

/-! ### Looking for a letter -/

/-- Marks that do not count are passed over. -/
theorem facesLetter_append_of_ignorable {xs : List Char}
    (h : ∀ c ∈ xs, inRanges caseIgnorable c = true) (ys : List Char) :
    facesLetter (xs ++ ys) = facesLetter ys := by
  unfold facesLetter
  rw [List.dropWhile_append_of_pos h]

/-- Behind a character that counts nothing is looked at. -/
theorem facesLetter_append_of_counting {xs : List Char}
    (h : ∃ c ∈ xs, inRanges caseIgnorable c = false) (ys : List Char) :
    facesLetter (xs ++ ys) = facesLetter xs := by
  have hne : xs.dropWhile (inRanges caseIgnorable) ≠ [] := by
    intro hnil
    obtain ⟨c, hc, hcounts⟩ := h
    rw [List.dropWhile_eq_nil_iff.mp hnil c hc] at hcounts
    cases hcounts
  unfold facesLetter
  rw [List.dropWhile_append, if_neg (by simpa using hne), List.head?_append,
    Option.or_of_isSome (by simpa using hne)]

theorem facesLetter_nil : facesLetter [] = false := rfl

/-! ### One character between others -/

/-- The small form of `c` behind `before`, nearest character first, and in front of `rest`. -/
def lowerBetween (before : List Char) (c : Char) (rest : List Char) : List Char :=
  if c = 'Σ' then [if facesLetter before && !facesLetter rest then 'ς' else 'σ'] else lowerChar c

theorem lowerAfter_cons (before : List Char) (c : Char) (rest : List Char) :
    lowerAfter before (c :: rest) = lowerBetween before c rest ++ lowerAfter (c :: before) rest :=
  rfl

theorem length_lowerBetween (before before' : List Char) (c : Char) (rest : List Char) :
    (lowerBetween before c rest).length = (lowerBetween before' c rest).length := by
  unfold lowerBetween
  split <;> rfl

/-- What stands before a character matters to it only if it is a sigma with no letter behind. -/
theorem lowerBetween_eq_iff {before before' : List Char} {c : Char} {rest : List Char} :
    lowerBetween before c rest = lowerBetween before' c rest ↔
      (c = 'Σ' → facesLetter rest = true ∨ facesLetter before = facesLetter before') := by
  unfold lowerBetween
  by_cases hc : c = 'Σ'
  · rw [if_pos hc, if_pos hc]
    cases facesLetter rest <;> cases facesLetter before <;> cases facesLetter before' <;>
      simp [hc]
  · simp [hc]

/-! ### Whole texts -/

theorem length_lowerAfter (before before' cs : List Char) :
    (lowerAfter before cs).length = (lowerAfter before' cs).length := by
  induction cs generalizing before before' with
  | nil => rfl
  | cons c cs ih =>
    rw [lowerAfter_cons, lowerAfter_cons, List.length_append, List.length_append,
      length_lowerBetween before before', ih (c :: before) (c :: before')]

theorem exists_lowerAfter_append (before s e : List Char) :
    ∃ small, lowerAfter before (s ++ e) = small ++ lowerAfter (s.reverse ++ before) e := by
  induction s generalizing before with
  | nil => exact ⟨[], rfl⟩
  | cons c s ih =>
    obtain ⟨small, hsmall⟩ := ih (c :: before)
    refine ⟨lowerBetween before c (s ++ e) ++ small, ?_⟩
    rw [List.cons_append, lowerAfter_cons, hsmall, List.append_assoc, List.reverse_cons,
      List.append_assoc, List.singleton_append]

/-- A text has the same small form behind two others if each of its sigmas has. -/
theorem lowerAfter_eq_iff {before before' e : List Char} :
    lowerAfter before e = lowerAfter before' e ↔
      ∀ x y, e = x ++ 'Σ' :: y → facesLetter y = true ∨
        facesLetter (x.reverse ++ before) = facesLetter (x.reverse ++ before') := by
  induction e generalizing before before' with
  | nil => simp [lowerAfter]
  | cons c e ih =>
    have hsplit : lowerAfter before (c :: e) = lowerAfter before' (c :: e) ↔
        lowerBetween before c e = lowerBetween before' c e ∧
          lowerAfter (c :: before) e = lowerAfter (c :: before') e := by
      rw [lowerAfter_cons, lowerAfter_cons]
      refine ⟨fun h => List.append_inj h (length_lowerBetween ..), fun ⟨h, h'⟩ => by rw [h, h']⟩
    rw [hsplit, lowerBetween_eq_iff, ih]
    -- a sigma of `c :: e` is `c` itself, or one of `e` with `c` before it
    constructor
    · rintro ⟨hhead, htail⟩ x y hxy
      cases x with
      | nil =>
        rw [List.nil_append, List.cons.injEq] at hxy
        obtain ⟨rfl, rfl⟩ := hxy
        exact hhead rfl
      | cons c' x =>
        rw [List.cons_append, List.cons.injEq] at hxy
        obtain ⟨rfl, rfl⟩ := hxy
        rw [List.reverse_cons, List.append_assoc, List.append_assoc]
        exact htail x y rfl
    · intro h
      refine ⟨fun hc => h [] e (by rw [hc]; rfl), fun x y hxy => ?_⟩
      have hcons := h (c :: x) y (by rw [hxy]; rfl)
      rwa [List.reverse_cons, List.append_assoc, List.append_assoc] at hcons

/-- A sigma in `e` that becomes final behind `s`, while it is not final in `e` alone: only marks that
do not count stand before it in `e`, but a letter at the end of `s`, and no letter follows. -/
def FinalOnlyBehind (s e : List Char) : Prop :=
  ∃ x y, e = x ++ 'Σ' :: y ∧ (∀ c ∈ x, inRanges caseIgnorable c = true) ∧
    facesLetter y = false ∧ facesLetter s.reverse = true

theorem lowerAfter_reverse_eq_iff (s e : List Char) :
    lowerAfter s.reverse e = lower e ↔ ¬ FinalOnlyBehind s e := by
  rw [lower, lowerAfter_eq_iff]
  constructor
  · rintro h ⟨x, y, hxy, hmarks, hafter, hbefore⟩
    have hmarks' : ∀ c ∈ x.reverse, inRanges caseIgnorable c = true := fun c hc =>
      hmarks c (List.mem_reverse.mp hc)
    -- behind marks only, the sigma sees what stands before `e`, and that makes the difference
    rcases h x y hxy with hletter | hsame
    · rw [hafter] at hletter
      cases hletter
    · rw [facesLetter_append_of_ignorable hmarks', facesLetter_append_of_ignorable hmarks',
        hbefore, facesLetter_nil] at hsame
      cases hsame
  · intro h x y hxy
    by_cases hmarks : ∀ c ∈ x, inRanges caseIgnorable c = true
    · have hmarks' : ∀ c ∈ x.reverse, inRanges caseIgnorable c = true := fun c hc =>
        hmarks c (List.mem_reverse.mp hc)
      rw [facesLetter_append_of_ignorable hmarks', facesLetter_append_of_ignorable hmarks',
        facesLetter_nil]
      by_contra hnot
      rw [not_or, Bool.not_eq_true, Bool.not_eq_false] at hnot
      exact h ⟨x, y, hxy, hmarks, hnot.1, hnot.2⟩
    · -- a character of `x` that counts hides all that stands before it
      right
      have hcounts : ∃ c ∈ x.reverse, inRanges caseIgnorable c = false := by
        simpa using hmarks
      rw [facesLetter_append_of_counting hcounts, facesLetter_append_of_counting hcounts]

/-- In small letters, too, `s ++ e` ends in `e`, unless a sigma in `e` becomes final behind `s`. -/
theorem lower_suffix_iff (s e : List Char) :
    lower e <:+ lower (s ++ e) ↔ ¬ FinalOnlyBehind s e := by
  obtain ⟨small, hsmall⟩ := exists_lowerAfter_append [] s e
  rw [List.append_nil] at hsmall
  have hlength : (lower e).length = (lowerAfter s.reverse e).length := length_lowerAfter ..
  show lower e <:+ lowerAfter [] (s ++ e) ↔ _
  rw [← lowerAfter_reverse_eq_iff, hsmall]
  constructor
  · -- two ends of one text that are of one length are equal
    intro h
    have hsuffix := List.suffix_of_suffix_length_le h (List.suffix_append small _)
      (Nat.le_of_eq hlength)
    exact (hsuffix.eq_of_length hlength).symm
  · intro h
    rw [h]
    exact List.suffix_append small _

/-! ### Texts in ASCII -/

/-- Before all other runs, only the letters of the first run move. -/
theorem move?_cons_of_lt {r : Run} {rs : List Run} {c : Char} (hstep : r.step = 1)
    (hothers : ∀ r' ∈ rs, c.toNat < r'.first) :
    Run.move? (r :: rs) c =
      if r.first ≤ c.toNat ∧ c.toNat ≤ r.last then
        some (Char.ofNat ((c.toNat : Int) + r.shift).toNat)
      else none := by
  have hnone : rs.find? (·.has c.toNat) = none := by
    refine List.find?_eq_none.mpr fun r' hr' hhas => ?_
    simp only [Run.has, Bool.and_eq_true, decide_eq_true_eq] at hhas
    have hfirst := hothers r' hr'
    omega
  have hhas : r.has c.toNat = decide (r.first ≤ c.toNat ∧ c.toNat ≤ r.last) := by
    rw [Run.has, hstep, Nat.mod_one, beq_self_eq_true, Bool.and_true]
  rw [Run.move?, List.find?_cons, hnone, hhas]
  split
  · next hc =>
    rw [if_pos (decide_eq_true_eq.mp hc)]
    rfl
  · next hc =>
    rw [if_neg (decide_eq_false_iff_not.mp hc)]
    rfl

/-- Of the characters of ASCII only those of the first run have another small form. -/
theorem lowerChar_of_ascii {c : Char} (h : c.toNat < 128) : lowerChar c = [c.toLower] := by
  have hothers : ∀ r ∈ lowerRuns.tail, 128 ≤ r.first := by decide +kernel
  have hdot : c ≠ 'İ' := by
    rintro rfl
    exact absurd h (by decide)
  have hruns : Run.move? lowerRuns c =
      if 0x41 ≤ c.toNat ∧ c.toNat ≤ 0x5A then some (Char.ofNat ((c.toNat : Int) + 32).toNat)
      else none :=
    move?_cons_of_lt (r := ⟨0x41, 0x5A, 1, 32⟩) rfl
      fun r hr => Nat.lt_of_lt_of_le h (hothers r hr)
  rw [lowerChar, if_neg hdot, hruns]
  split
  · next hc =>
    have hletters : ∀ n : Fin 26,
        Char.ofNat (((0x41 + n : Nat) : Int) + 32).toNat = (Char.ofNat (0x41 + n)).toLower := by
      decide
    have hletter := hletters ⟨c.toNat - 0x41, by omega⟩
    have hcode : 0x41 + (c.toNat - 0x41) = c.toNat := by omega
    rw [hcode, Char.ofNat_toNat] at hletter
    exact congrArg (fun c => [c]) hletter
  · next hc =>
    have hfixed : c.toLower = c := dif_neg hc
    rw [hfixed]
    rfl

theorem lowerAfter_of_ascii (before : List Char) {cs : List Char} (h : ∀ c ∈ cs, c.toNat < 128) :
    lowerAfter before cs = cs.map Char.toLower := by
  induction cs generalizing before with
  | nil => rfl
  | cons c cs ih =>
    rw [List.forall_mem_cons] at h
    have hsigma : c ≠ 'Σ' := by
      rintro rfl
      exact absurd h.1 (by decide)
    rw [lowerAfter_cons, lowerBetween, if_neg hsigma, lowerChar_of_ascii h.1, ih _ h.2]
    rfl

/-- A character is in ASCII if its small form there is. -/
theorem ascii_of_toLower {c : Char} (h : c.toLower.toNat < 128) : c.toNat < 128 := by
  by_cases hc : 0x41 ≤ c.toNat ∧ c.toNat ≤ 0x5A
  · omega
  · have hfixed : c.toLower = c := dif_neg hc
    rwa [hfixed] at h

end FixturePragmas.Text
