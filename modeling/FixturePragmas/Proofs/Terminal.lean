import FixturePragmas.Terminal.Escape
import Mathlib.Data.List.TakeWhile

/-!
# Taking control sequences out

A text without escapes has no control sequences and stays as it is (`strip_eq_self`), and so does
the part of a text in front of its first escape (`strip_append_of_not_mem`). No sequence goes on
beyond its line, so lines are stripped one by one (`strip_append_newline`). Nothing is added, and
whatever is taken out starts with an escape: unless there are fewer escapes behind, nothing was
taken out (`strip_eq_self_iff`).
-/

namespace FixturePragmas.Terminal

/-! ### One step -/

theorem skipSequence?_cons_of_ne {c : Char} (h : c ≠ escape) (cs : List Char) :
    skipSequence? (c :: cs) = none := by
  unfold skipSequence?
  split
  · next heq => exact if_neg ((List.cons.inj heq).1 ▸ h)
  · rfl

theorem skipSequence?_of_ne_bracket {c d : Char} (h : d ≠ '[') (cs : List Char) :
    skipSequence? (c :: d :: cs) = none := by
  unfold skipSequence?
  split
  · next heq => exact absurd (List.cons.inj (List.cons.inj heq).2).1 h
  · rfl

theorem afterSequence?_suffix {cs rest : List Char} (h : afterSequence? cs = some rest) :
    rest <:+ cs := by
  unfold afterSequence? at h
  dsimp only at h
  split at h
  · cases h
  · next c tail hbehind =>
    split at h
    · obtain rfl := Option.some.inj h
      have hsuffix := (List.dropWhile_suffix (l := cs.dropWhile (isBetween 0x30 0x3F))
        (isBetween 0x20 0x2F)).trans (List.dropWhile_suffix _)
      rw [hbehind] at hsuffix
      exact (List.suffix_cons c tail).trans hsuffix
    · cases h

/-- A sequence starts with an escape. -/
theorem skipSequence?_sound {cs rest : List Char} (h : skipSequence? cs = some rest) :
    ∃ t, cs = escape :: t ∧ rest <:+ t := by
  unfold skipSequence? at h
  split at h
  · next c tail =>
    split at h
    · next hc =>
      refine ⟨'[' :: tail, by rw [hc], ?_⟩
      exact (afterSequence?_suffix h).trans (List.suffix_cons '[' tail)
    · cases h
  · cases h

@[simp] theorem strip_nil : strip [] = [] := by
  rw [strip]
  rfl

theorem strip_of_skipSequence? {cs rest : List Char} (h : skipSequence? cs = some rest) :
    strip cs = strip rest := by
  rw [strip]
  split
  · next hskip => rw [Option.some.inj (h.symm.trans hskip)]
  · next hnone =>
    rw [h] at hnone
    cases hnone

theorem strip_cons {c : Char} {cs : List Char} (h : skipSequence? (c :: cs) = none) :
    strip (c :: cs) = c :: strip cs := by
  rw [strip]
  split
  · next hskip =>
    rw [h] at hskip
    cases hskip
  · rfl

/-! ### What is taken out -/

/-- Of a text in which nothing is escaped at the start, the start stays. -/
theorem strip_append_of_not_mem {cs : List Char} (h : escape ∉ cs) (t : List Char) :
    strip (cs ++ t) = cs ++ strip t := by
  induction cs with
  | nil => rfl
  | cons c cs ih =>
    rw [List.mem_cons, not_or] at h
    rw [List.cons_append, strip_cons (skipSequence?_cons_of_ne (Ne.symm h.1) _), ih h.2,
      List.cons_append]

/-- A text without escapes has no control sequences. -/
theorem strip_eq_self {cs : List Char} (h : escape ∉ cs) : strip cs = cs := by
  have happend := strip_append_of_not_mem h []
  rwa [strip_nil, List.append_nil] at happend

theorem strip_sublist (cs : List Char) : (strip cs).Sublist cs := by
  induction cs using strip.induct with
  | case1 cs rest hskip ih =>
    obtain ⟨t, rfl, hsuffix⟩ := skipSequence?_sound hskip
    rw [strip_of_skipSequence? hskip]
    exact (ih.trans hsuffix.sublist).cons escape
  | case2 hskip => simp
  | case3 c cs hskip ih =>
    rw [strip_cons hskip]
    exact ih.cons_cons c

/-- A text loses an escape or nothing. -/
theorem strip_eq_self_iff {cs : List Char} :
    strip cs = cs ↔ cs.count escape ≤ (strip cs).count escape := by
  constructor
  · intro h
    rw [h]
  · induction cs using strip.induct with
    | case1 cs rest hskip ih =>
      intro hcount
      obtain ⟨t, rfl, hsuffix⟩ := skipSequence?_sound hskip
      have hle := ((strip_sublist rest).trans hsuffix.sublist).count_le escape
      rw [strip_of_skipSequence? hskip, List.count_cons_self] at hcount
      omega
    | case2 hskip => exact fun _ => strip_nil
    | case3 c cs hskip ih =>
      intro hcount
      rw [strip_cons hskip, List.count_cons, List.count_cons] at hcount
      rw [strip_cons hskip, ih (by omega)]

/-! ### Lines -/

theorem afterSequence?_append_newline (cs t : List Char) :
    afterSequence? (cs ++ '\n' :: t) = (afterSequence? cs).map (· ++ '\n' :: t) := by
  have hdrop {low high : Nat} (hrange : isBetween low high '\n' = false) (xs : List Char) :
      (xs ++ '\n' :: t).dropWhile (isBetween low high) =
        xs.dropWhile (isBetween low high) ++ '\n' :: t := by
    rw [List.dropWhile_append]
    split
    · next hnil =>
      rw [List.isEmpty_iff.mp hnil, List.dropWhile_cons_of_neg (by simp [hrange]), List.nil_append]
    · rfl
  unfold afterSequence?
  dsimp only
  rw [hdrop (by decide), hdrop (by decide)]
  cases (cs.dropWhile (isBetween 0x30 0x3F)).dropWhile (isBetween 0x20 0x2F) with
  | nil => rfl
  | cons c rest =>
    dsimp only [List.cons_append]
    split <;> rfl

theorem skipSequence?_append_newline (cs t : List Char) :
    skipSequence? (cs ++ '\n' :: t) = (skipSequence? cs).map (· ++ '\n' :: t) := by
  match cs with
  | [] => exact skipSequence?_cons_of_ne (by decide) t
  | [c] => exact skipSequence?_of_ne_bracket (by decide) t
  | c :: d :: cs =>
    by_cases hd : d = '['
    · subst hd
      show (if c = escape then afterSequence? (cs ++ '\n' :: t) else none) =
        (if c = escape then afterSequence? cs else none).map (· ++ '\n' :: t)
      split
      · exact afterSequence?_append_newline cs t
      · rfl
    · rw [skipSequence?_of_ne_bracket hd, Option.map_none]
      exact skipSequence?_of_ne_bracket hd _

/-- No sequence goes on beyond its line. -/
theorem strip_append_newline (cs t : List Char) :
    strip (cs ++ '\n' :: t) = strip cs ++ '\n' :: strip t := by
  induction cs using strip.induct with
  | case1 cs rest hskip ih =>
    have hskip' := skipSequence?_append_newline cs t
    rw [hskip] at hskip'
    rw [strip_of_skipSequence? hskip', strip_of_skipSequence? hskip, ih]
  | case2 hskip =>
    rw [strip_nil]
    exact strip_cons (skipSequence?_cons_of_ne (by decide) t)
  | case3 c cs hskip ih =>
    have hskip' := skipSequence?_append_newline (c :: cs) t
    rw [hskip] at hskip'
    rw [List.cons_append] at hskip' ⊢
    rw [strip_cons hskip', ih, strip_cons hskip, List.cons_append]

end FixturePragmas.Terminal
