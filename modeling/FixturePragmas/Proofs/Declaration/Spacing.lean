import FixturePragmas.Proofs.Declaration.Grammar
import Mathlib.Data.List.TakeWhile

/-!
# White space behind a comment

White space behind a comment completes no sign of it and breaks none. Every step of the reader finds
in `cs ++ w`, where `w` is white space, what it finds in `cs`, and leaves `w` behind what it leaves
there; so the same declarations are read in the end (`ofComment_append_blank`). A run of characters
up to a stop, such as a message up to its quote, is not ended by white space; one that stops at white
space, such as a numeral, ends where it did.
-/

namespace FixturePragmas

/-! ### Runs of characters -/

section Runs

variable {p : Char → Bool} {w : List Char}

/-- A run that went on to the end of a text goes on, and one that was stopped there leaves more. -/
theorem dropWhile_append_of_forall (hw : ∀ c ∈ w, p c = true) (cs : List Char) :
    (cs ++ w).dropWhile p = if cs.dropWhile p = [] then [] else cs.dropWhile p ++ w := by
  rw [List.dropWhile_append, List.dropWhile_eq_nil_iff.mpr hw]
  simp only [List.isEmpty_iff]

/-- A run that was stopped is not changed by what follows. -/
theorem takeWhile_append_of_ne_nil {cs : List Char} (h : cs.dropWhile p ≠ []) (w : List Char) :
    (cs ++ w).takeWhile p = cs.takeWhile p := by
  have hlength := congrArg List.length (List.takeWhile_append_dropWhile (p := p) (l := cs))
  have hpos := List.length_pos_iff.mpr h
  rw [List.length_append] at hlength
  rw [List.takeWhile_append, if_neg (by omega)]

/-- A run that stops at every character of `w` stops there at the latest. -/
theorem span_append_of_forall_not (hw : ∀ c ∈ w, p c = false) (cs : List Char) :
    (cs ++ w).takeWhile p = cs.takeWhile p ∧ (cs ++ w).dropWhile p = cs.dropWhile p ++ w := by
  induction cs with
  | nil =>
    cases w with
    | nil => exact ⟨rfl, rfl⟩
    | cons d w =>
      have hd : ¬ p d = true := by simp [hw d List.mem_cons_self]
      exact ⟨List.takeWhile_cons_of_neg hd, List.dropWhile_cons_of_neg hd⟩
  | cons c cs ih =>
    by_cases hc : p c = true
    · simpa [hc] using ih
    · simp [hc]

end Runs

theorem Text.trimStart_append_blank {w : List Char} (hw : Blank w) (cs : List Char) :
    trimStart (cs ++ w) = if trimStart cs = [] then [] else trimStart cs ++ w :=
  dropWhile_append_of_forall hw cs

namespace Declaration

open Text (Blank isBlank isAsciiDigit trim trimStart)

variable {w : List Char} (hw : Blank w)

include hw

/-! ### Signs, numerals and quotations -/

theorem sign?_append_blank (c : Char) (cs : List Char) :
    sign? c (cs ++ w) = (sign? c cs).map (· ++ w) := by
  unfold sign?
  rw [Text.trimStart_append_blank hw]
  cases trimStart cs with
  | nil => rfl
  | cons d rest =>
    rw [if_neg (List.cons_ne_nil d rest)]
    show (if d = c then some (rest ++ w) else none) = (if d = c then some rest else none).map (· ++ w)
    split <;> rfl

theorem numeral?_append_blank (cs : List Char) :
    numeral? (cs ++ w) = (numeral? cs).map fun r => (r.1, r.2 ++ w) := by
  have hdigits : ∀ c ∈ w, isAsciiDigit c = false := by
    intro c hc
    cases hd : isAsciiDigit c with
    | false => rfl
    | true => exact absurd (hw c hc) (by simp [not_blank_of_isAsciiDigit hd])
  obtain ⟨htake, hdrop⟩ := span_append_of_forall_not hdigits (trimStart cs)
  unfold numeral?
  rw [Text.trimStart_append_blank hw]
  dsimp only
  by_cases hnil : trimStart cs = []
  · rw [if_pos hnil, hnil]
    rfl
  · rw [if_neg hnil, htake, hdrop]
    cases (trimStart cs).takeWhile isAsciiDigit <;> rfl

theorem quotation?_append_blank (cs : List Char) :
    quotation? (cs ++ w) = (quotation? cs).map fun r => (r.1, r.2 ++ w) := by
  have hnone : ∀ c ∈ w, decide (c ≠ '"') = true := fun c hc =>
    decide_eq_true fun heq => hw.not_mem rfl (heq ▸ hc)
  unfold quotation?
  rw [sign?_append_blank hw]
  cases sign? '"' cs with
  | none => rfl
  | some body =>
    dsimp only [Option.map_some]
    rw [dropWhile_append_of_forall hnone]
    by_cases hrun : body.dropWhile (· ≠ '"') = []
    · -- an open message is none, however far it goes on
      rw [if_pos hrun, hrun]
      rfl
    · rw [if_neg hrun, takeWhile_append_of_ne_nil hrun]
      obtain ⟨d, rest, hrest⟩ := List.exists_cons_of_ne_nil hrun
      rw [hrest]
      rfl

/-! ### Entries -/

theorem entry?_append_blank (cs : List Char) :
    entry? (cs ++ w) = (fun r => (r.1, r.2 ++ w)) <$> entry? cs := by
  unfold entry?
  rw [numeral?_append_blank hw]
  cases numeral? cs with
  | none =>
    show (quotation? (cs ++ w)).map _ = ((quotation? cs).map _).map _
    rw [quotation?_append_blank hw, Option.map_map, Option.map_map]
    rfl
  | some r =>
    dsimp only [Option.map_some]
    rw [quotation?_append_blank hw]
    cases quotation? r.2 <;> rfl

theorem entries_append_blank (cs : List Char) :
    entries (cs ++ w) = ((entries cs).1, (entries cs).2 ++ w) := by
  fun_induction entries cs with
  | case1 cs he =>
    have he' : entry? (cs ++ w) = none := by rw [entry?_append_blank hw, he]; rfl
    exact entries_eq_nil he'
  | case2 cs e rest he hs =>
    have he' : entry? (cs ++ w) = some (e, rest ++ w) := by rw [entry?_append_blank hw, he]; rfl
    have hs' : sign? ',' (rest ++ w) = none := by rw [sign?_append_blank hw, hs]; rfl
    exact entries_eq_singleton he' hs'
  | case3 cs e rest he rest' hs more ih =>
    have he' : entry? (cs ++ w) = some (e, rest ++ w) := by rw [entry?_append_blank hw, he]; rfl
    have hs' : sign? ',' (rest ++ w) = some (rest' ++ w) := by rw [sign?_append_blank hw, hs]; rfl
    rw [entries_eq_cons he' hs', ih]

theorem entriesAfterCode_append_blank (cs : List Char) :
    entriesAfterCode (cs ++ w) = ((entriesAfterCode cs).1, (entriesAfterCode cs).2 ++ w) := by
  unfold entriesAfterCode
  rw [sign?_append_blank hw]
  cases sign? ':' cs with
  | none => rfl
  | some body => exact entries_append_blank hw body

/-! ### Groups and whole comments -/

theorem group?_append_blank {cs : List Char} (hne : cs ≠ []) :
    group? (cs ++ w) = (group? cs).map fun g => (g.1, g.2 ++ w) := by
  have hinside : ∀ c ∈ w, inCode c = true := fun c hc =>
    decide_eq_true ⟨fun heq => hw.not_mem rfl (heq ▸ hc), fun heq => hw.not_mem rfl (heq ▸ hc)⟩
  obtain ⟨c, cs, rfl⟩ := List.exists_cons_of_ne_nil hne
  rw [List.cons_append, group?, group?]
  by_cases hopen : c = '['
  · rw [if_pos hopen, if_pos hopen, dropWhile_append_of_forall hinside]
    by_cases hrun : cs.dropWhile inCode = []
    · -- the bracket is left open; what stands in it now differs, but nothing reads that
      rw [if_pos hrun, hrun]
      cases (cs ++ w).takeWhile inCode <;> cases cs.takeWhile inCode <;> rfl
    · rw [if_neg hrun, takeWhile_append_of_ne_nil hrun]
      obtain ⟨d, rest, hrest⟩ := List.exists_cons_of_ne_nil hrun
      rw [hrest]
      cases cs.takeWhile inCode with
      | nil => rfl
      | cons x xs =>
        show (if d = ']' then some (x :: xs, rest ++ w) else none) =
          (if d = ']' then some (x :: xs, rest) else none).map _
        split <;> rfl
  · rw [if_neg hopen, if_neg hopen]
    rfl

theorem nextGroup?_append_blank (cs : List Char) :
    nextGroup? (cs ++ w) = (nextGroup? cs).map fun g => (g.1, g.2 ++ w) := by
  induction cs with
  | nil => exact nextGroup?_eq_none (hw.not_mem rfl)
  | cons c cs ih =>
    have hgroup := group?_append_blank hw (List.cons_ne_nil c cs)
    rw [List.cons_append] at hgroup ⊢
    rw [nextGroup?, nextGroup?, hgroup]
    cases group? (c :: cs) with
    | none => exact ih
    | some g => rfl

theorem Written.all_append_blank (cs : List Char) : Written.all (cs ++ w) = Written.all cs := by
  fun_induction Written.all cs with
  | case1 cs hg =>
    have hg' : nextGroup? (cs ++ w) = none := by rw [nextGroup?_append_blank hw, hg]; rfl
    exact Written.all_eq_nil hg'
  | case2 cs x rest hg hx ih =>
    have hg' : nextGroup? (cs ++ w) = some (x, rest ++ w) := by
      rw [nextGroup?_append_blank hw, hg]
      rfl
    rw [Written.all_eq_of_blank hg' hx, ih]
  | case3 cs x rest hg hx list ih =>
    have hg' : nextGroup? (cs ++ w) = some (x, rest ++ w) := by
      rw [nextGroup?_append_blank hw, hg]
      rfl
    rw [Written.all_eq_cons hg' hx, entriesAfterCode_append_blank hw, ih]

/-- White space behind a comment changes nothing of what it declares, nor of how reading it fails.
-/
theorem ofComment_append_blank (cs : List Char) : ofComment (cs ++ w) = ofComment cs := by
  unfold ofComment
  rw [Written.all_append_blank hw]

end Declaration

end FixturePragmas
