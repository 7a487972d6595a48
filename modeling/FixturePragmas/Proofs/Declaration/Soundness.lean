import FixturePragmas.Proofs.Declaration.Grammar
import Mathlib.Data.List.TakeWhile

/-!
# What the reader finds

Whatever text the reader is given, what it finds in it is written as the grammar says: each step is
inverted to an equation on the text that it took. The result on whole comments is
`Written.foundIn_of_mem_all`: the codes are codes of the grammar, the entries are spelled by the
text, and no character comes from elsewhere.
-/

namespace FixturePragmas.Declaration

open Text (Blank isBlank isAsciiDigit trim trimStart)
open Grammar

/-! ### Single steps -/

theorem exists_blank_append_trimStart (cs : List Char) :
    ∃ w, Blank w ∧ cs = w ++ trimStart cs := by
  refine ⟨cs.takeWhile isBlank, fun c hc => ?_, ?_⟩
  · exact List.mem_takeWhile_imp hc
  · exact List.takeWhile_append_dropWhile.symm

theorem sign?_sound {c : Char} {cs rest : List Char} (h : sign? c cs = some rest) :
    ∃ w, Blank w ∧ cs = w ++ c :: rest := by
  obtain ⟨w, hw, hcs⟩ := exists_blank_append_trimStart cs
  refine ⟨w, hw, ?_⟩
  unfold sign? at h
  split at h
  · exact absurd h (by simp)
  · next d tail ht =>
    split at h
    · next hd =>
      rw [Option.some.injEq] at h
      rw [hcs, ht, hd, h]
    · exact absurd h (by simp)

theorem numeral?_sound {cs ds rest : List Char} (h : numeral? cs = some (ds, rest)) :
    IsNumeral ds ∧ ∃ w, Blank w ∧ cs = w ++ (ds ++ rest) := by
  obtain ⟨w, hw, hcs⟩ := exists_blank_append_trimStart cs
  unfold numeral? at h
  dsimp only at h
  split at h
  · exact absurd h (by simp)
  · next d tail ht =>
    simp only [Option.some.injEq, Prod.mk.injEq] at h
    obtain ⟨rfl, rfl⟩ := h
    refine ⟨⟨List.cons_ne_nil d tail, fun c hc => ?_⟩, w, hw, ?_⟩
    · rw [← ht] at hc
      exact List.mem_takeWhile_imp hc
    · rw [← ht, List.takeWhile_append_dropWhile]
      exact hcs

theorem quotation?_sound {cs text rest : List Char} (h : quotation? cs = some (text, rest)) :
    '"' ∉ text ∧ ∃ w, Blank w ∧ cs = w ++ '"' :: (text ++ '"' :: rest) := by
  unfold quotation? at h
  split at h
  · exact absurd h (by simp)
  · next body hs =>
    obtain ⟨w, hw, hcs⟩ := sign?_sound hs
    split at h
    · exact absurd h (by simp)
    · next d tail ht =>
      simp only [Option.some.injEq, Prod.mk.injEq] at h
      obtain ⟨rfl, rfl⟩ := h
      have hd : d = '"' := by
        have hstop := List.head?_dropWhile_not (fun c => decide (c ≠ '"')) body
        rw [ht] at hstop
        simpa using hstop
      refine ⟨fun hmem => ?_, w, hw, ?_⟩
      · have hne := List.mem_takeWhile_imp hmem
        exact absurd hne (by decide)
      · subst hd
        rw [← ht, List.takeWhile_append_dropWhile]
        exact hcs

/-- An entry that is read is spelled by the text that is taken. -/
theorem entry?_sound {cs rest : List Char} {e : Entry} (h : entry? cs = some (e, rest)) :
    ∃ w t, Blank w ∧ EntryText t e ∧ cs = w ++ (t ++ rest) := by
  unfold entry? at h
  split at h
  · next ds rest₁ hn =>
    obtain ⟨hds, w, hw, hcs⟩ := numeral?_sound hn
    split at h
    · next text rest₂ hq =>
      obtain ⟨htext, v, hv, hrest⟩ := quotation?_sound hq
      simp only [Option.some.injEq, Prod.mk.injEq] at h
      obtain ⟨rfl, rfl⟩ := h
      refine ⟨w, _, hw, .columnMessage hds hv htext, ?_⟩
      rw [hcs, hrest]
      simp
    · simp only [Option.some.injEq, Prod.mk.injEq] at h
      obtain ⟨rfl, rfl⟩ := h
      exact ⟨w, ds, hw, .column hds, hcs⟩
  · rw [Option.map_eq_some_iff] at h
    obtain ⟨⟨text, rest₁⟩, hq, he⟩ := h
    simp only [Prod.mk.injEq] at he
    obtain ⟨rfl, rfl⟩ := he
    obtain ⟨htext, w, hw, hcs⟩ := quotation?_sound hq
    refine ⟨w, _, hw, .message htext, ?_⟩
    rw [hcs]
    simp

/-- The text starts with the group that is read, its inside free of brackets. -/
theorem group?_sound {cs x rest : List Char} (h : group? cs = some (x, rest)) :
    x ≠ [] ∧ (∀ c ∈ x, inCode c = true) ∧ cs = '[' :: (x ++ ']' :: rest) := by
  cases cs with
  | nil => exact absurd h (by simp [group?])
  | cons c cs =>
    rw [group?] at h
    split at h
    · next hc =>
      split at h
      · next y ys d tail hx hd =>
        split at h
        · next hclose =>
          simp only [Option.some.injEq, Prod.mk.injEq] at h
          obtain ⟨rfl, rfl⟩ := h
          refine ⟨List.cons_ne_nil y ys, fun a ha => ?_, ?_⟩
          · rw [← hx] at ha
            exact List.mem_takeWhile_imp ha
          · rw [hc, ← hclose, ← hx, ← hd, List.takeWhile_append_dropWhile]
        · exact absurd h (by simp)
      · exact absurd h (by simp)
    · exact absurd h (by simp)

/-- A group that is found is written in the text. -/
theorem nextGroup?_sound {cs x rest : List Char} (h : nextGroup? cs = some (x, rest)) :
    x ≠ [] ∧ (∀ c ∈ x, inCode c = true) ∧ ∃ before, cs = before ++ '[' :: (x ++ ']' :: rest) := by
  induction cs with
  | nil => exact absurd h (by simp [nextGroup?])
  | cons c cs ih =>
    rw [nextGroup?] at h
    split at h
    · next g hg =>
      rw [Option.some.injEq] at h
      subst h
      obtain ⟨hne, hin, hcs⟩ := group?_sound hg
      exact ⟨hne, hin, [], hcs⟩
    · obtain ⟨hne, hin, before, hcs⟩ := ih h
      exact ⟨hne, hin, c :: before, by rw [hcs, List.cons_append]⟩

/-! ### Whole comments -/

/-- That an entry is spelled by a stretch of characters that all stand in `cs`. -/
def Entry.SpelledIn (cs : List Char) (e : Entry) : Prop := ∃ t, EntryText t e ∧ t ⊆ cs

/-- That a declaration is made of what stands in `cs`: a code of the grammar, and entries. -/
structure Written.FoundIn (cs : List Char) (d : Written) : Prop where
  isCode : IsCode d.code
  code_subset : d.code ⊆ cs
  entries : ∀ e ∈ d.entries, e.SpelledIn cs

theorem Entry.SpelledIn.mono {cs cs' : List Char} {e : Entry} (h : e.SpelledIn cs)
    (hsub : cs ⊆ cs') : e.SpelledIn cs' := by
  obtain ⟨t, ht, hcs⟩ := h
  exact ⟨t, ht, List.Subset.trans hcs hsub⟩

theorem Written.FoundIn.mono {cs cs' : List Char} {d : Written} (h : d.FoundIn cs)
    (hsub : cs ⊆ cs') : d.FoundIn cs' :=
  ⟨h.isCode, List.Subset.trans h.code_subset hsub, fun e he => (h.entries e he).mono hsub⟩

theorem entries_sound (cs : List Char) :
    (∀ e ∈ (entries cs).1, e.SpelledIn cs) ∧ (entries cs).2 ⊆ cs := by
  fun_induction entries cs with
  | case1 cs he => exact ⟨fun e he => absurd he List.not_mem_nil, List.Subset.refl cs⟩
  | case2 cs e rest he hs =>
    obtain ⟨w, t, -, ht, rfl⟩ := entry?_sound he
    have ht' : t ⊆ w ++ (t ++ rest) := by simp
    refine ⟨fun e' he' => ?_, by simp⟩
    rw [List.mem_singleton.mp he']
    exact ⟨t, ht, ht'⟩
  | case3 cs e rest he rest' hs more ih =>
    obtain ⟨w, t, -, ht, rfl⟩ := entry?_sound he
    obtain ⟨v, -, rfl⟩ := sign?_sound hs
    have hsub : rest' ⊆ w ++ (t ++ (v ++ ',' :: rest')) := by
      intro c hc
      simp [hc]
    have ht' : t ⊆ w ++ (t ++ (v ++ ',' :: rest')) := by simp
    refine ⟨fun e' he' => ?_, List.Subset.trans ih.2 hsub⟩
    rcases List.mem_cons.mp he' with rfl | hmem
    · exact ⟨t, ht, ht'⟩
    · exact (ih.1 e' hmem).mono hsub

theorem entriesAfterCode_sound (cs : List Char) :
    (∀ e ∈ (entriesAfterCode cs).1, e.SpelledIn cs) ∧ (entriesAfterCode cs).2 ⊆ cs := by
  unfold entriesAfterCode
  split
  · exact ⟨fun e he => absurd he List.not_mem_nil, List.Subset.refl cs⟩
  · next body hs =>
    obtain ⟨w, -, rfl⟩ := sign?_sound hs
    have hsub : body ⊆ w ++ ':' :: body := by
      intro c hc
      simp [hc]
    obtain ⟨hentries, hrest⟩ := entries_sound body
    exact ⟨fun e he => (hentries e he).mono hsub, List.Subset.trans hrest hsub⟩

/-- The code that is read from the inside of a group. -/
theorem isCode_trim {x : List Char} (hin : ∀ c ∈ x, inCode c = true) (hne : trim x ≠ []) :
    IsCode (trim x) where
  ne_nil := hne
  no_bracket := fun c hc => of_decide_eq_true (hin c (Text.mem_of_mem_trim hc))
  head := Text.not_blank_of_mem_head?_trim
  last := Text.not_blank_of_mem_getLast?_trim

/-- All that is found in a comment is made of what stands in it. -/
theorem Written.foundIn_of_mem_all (cs : List Char) : ∀ d ∈ Written.all cs, d.FoundIn cs := by
  fun_induction Written.all cs with
  | case1 cs hg => exact fun d hd => absurd hd List.not_mem_nil
  | case2 cs x rest hg hx ih =>
    obtain ⟨-, -, before, rfl⟩ := nextGroup?_sound hg
    have hsub : rest ⊆ before ++ '[' :: (x ++ ']' :: rest) := by
      intro c hc
      simp [hc]
    exact fun d hd => (ih d hd).mono hsub
  | case3 cs x rest hg hx list ih =>
    obtain ⟨-, hin, before, rfl⟩ := nextGroup?_sound hg
    have hsub : rest ⊆ before ++ '[' :: (x ++ ']' :: rest) := by
      intro c hc
      simp [hc]
    obtain ⟨hentries, hrest⟩ := entriesAfterCode_sound rest
    intro d hd
    rcases List.mem_cons.mp hd with rfl | hmem
    · refine ⟨isCode_trim hin hx, fun c hc => ?_, fun e he => (hentries e he).mono hsub⟩
      have hcx : c ∈ x := Text.mem_of_mem_trim hc
      simp [hcx]
    · exact (ih d hmem).mono (List.Subset.trans hrest hsub)

end FixturePragmas.Declaration
