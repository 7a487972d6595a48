import FixturePragmas.Line
import Mathlib.Data.List.TakeWhile

/-!
# Lines under openers

How the two searches of a classification work on texts of a known shape: code, then an opener, then
the comment. An opener is found where it first occurs, and a line with something in front of its
first opener is no comment as a whole (`Line.classify_code_opener`). Whatever is found, the comment
is made of what stands in the line.
-/

namespace FixturePragmas

/-- Trimming a text that goes on from code stops within the code. -/
theorem Text.exists_trimStart_append {code : List Char} (h : ∃ c ∈ code, isBlank c = false) :
    ∃ k < code.length, ∀ rest, trimStart (code ++ rest) = code.drop k ++ rest := by
  obtain ⟨u, hu⟩ := List.dropWhile_suffix (l := code) isBlank
  have hkept : code.dropWhile isBlank ≠ [] := by
    intro hnil
    obtain ⟨c, hc, hblank⟩ := h
    rw [List.dropWhile_eq_nil_iff.mp hnil c hc] at hblank
    exact absurd hblank (by decide)
  have hlen := congrArg List.length hu
  have hpos := List.length_pos_iff.mpr hkept
  rw [List.length_append] at hlen
  have hdrop : code.drop u.length = code.dropWhile isBlank := by
    have hleft : (u ++ code.dropWhile isBlank).drop u.length = code.dropWhile isBlank :=
      List.drop_left
    rwa [hu] at hleft
  refine ⟨u.length, by omega, fun rest => ?_⟩
  rw [hdrop, trimStart, List.dropWhile_append, if_neg (by simpa using hkept)]

namespace Line

/-- Up to its first occurrence behind `code`, an opener is not found. -/
theorem afterFirst?_append {opener code rest : List Char} (hne : opener ≠ [])
    (hfirst : ∀ k < code.length, ¬ opener <+: (code ++ opener).drop k) :
    afterFirst? opener (code ++ (opener ++ rest)) = some rest := by
  induction code with
  | nil =>
    obtain ⟨a, o, rfl⟩ := List.exists_cons_of_ne_nil hne
    have hstart : afterStart? (a :: o) (a :: (o ++ rest)) = some rest :=
      afterStart?_eq_some_iff.mpr rfl
    show afterFirst? (a :: o) (a :: (o ++ rest)) = some rest
    rw [afterFirst?, hstart]
  | cons c code ih =>
    have hstart : afterStart? opener (c :: (code ++ (opener ++ rest))) = none := by
      cases hs : afterStart? opener (c :: (code ++ (opener ++ rest))) with
      | none => rfl
      | some r =>
        have heq := afterStart?_eq_some_iff.mp hs
        have hlong : opener <+: (c :: code ++ opener) ++ rest := ⟨r, by rw [← heq]; simp⟩
        -- an opener found here would already be found when the line ended behind the opener
        have hprefix : opener <+: c :: code ++ opener := by
          refine List.prefix_of_prefix_length_le hlong (List.prefix_append _ _) ?_
          rw [List.length_append]
          omega
        exact absurd hprefix (hfirst 0 (by simp))
    have hnext : ∀ k < code.length, ¬ opener <+: (code ++ opener).drop k := by
      intro k hk
      exact hfirst (k + 1) (by simpa using hk)
    rw [List.cons_append, afterFirst?, hstart]
    exact ih hnext

/-- Code with something in it, then the opener where it first occurs, make a line of code with a
comment. -/
theorem classify_code_opener {opener : String} {code : List Char} (hne : opener ≠ "")
    (hcode : ∃ c ∈ code, Text.isBlank c = false)
    (hfirst : ∀ k < code.length, ¬ opener.toList <+: (code ++ opener.toList).drop k)
    (rest : List Char) :
    classify [opener] (code ++ (opener.toList ++ rest)) = .codeWithComment opener rest := by
  have hne' : opener.toList ≠ [] := fun h => hne (String.toList_eq_nil_iff.mp h)
  obtain ⟨k, hk, htrim⟩ := Text.exists_trimStart_append hcode
  have hstart : afterStart? opener.toList
      (Text.trimStart (code ++ (opener.toList ++ rest))) = none := by
    cases hs : afterStart? opener.toList (Text.trimStart (code ++ (opener.toList ++ rest))) with
    | none => rfl
    | some r =>
      have heq := afterStart?_eq_some_iff.mp hs
      rw [htrim, ← List.append_assoc, ← List.drop_append_of_le_length (Nat.le_of_lt hk)] at heq
      have hprefix : opener.toList <+: (code ++ opener.toList).drop k := by
        refine List.prefix_of_prefix_length_le ⟨r, heq.symm⟩ (List.prefix_append _ rest) ?_
        rw [List.length_drop, List.length_append]
        omega
      exact absurd hprefix (hfirst k hk)
  have hthere : afterFirst? opener.toList (code ++ (opener.toList ++ rest)) = some rest :=
    afterFirst?_append hne' hfirst
  simp [classify, find?, hne, hstart, hthere]

theorem classify_nil {opener : String} (hne : opener ≠ "") : classify [opener] [] = .code := by
  have hne' : opener.toList ≠ [] := fun h => hne (String.toList_eq_nil_iff.mp h)
  have hnone : afterStart? opener.toList [] = none := by
    cases h : afterStart? opener.toList [] with
    | none => rfl
    | some rest =>
      have heq := afterStart?_eq_some_iff.mp h
      exact absurd (List.append_eq_nil_iff.mp heq.symm).1 hne'
  have htrim : Text.trimStart [] = [] := rfl
  simp [classify, find?, hne, htrim, hnone, afterFirst?]

theorem find?_eq_none_iff {after? : List Char → Option (List Char)} {openers : List String} :
    find? after? openers = none ↔ ∀ o ∈ openers, after? o.toList = none := by
  simp [find?, List.findSome?_eq_none_iff]

/-- Under empty openers, and under no others, every line is plain code. -/
theorem forall_classify_eq_code_iff {openers : List String} :
    (∀ cs, classify openers cs = .code) ↔ ∀ o ∈ openers, o = "" := by
  constructor
  · intro h o ho
    by_contra hne
    have hactive : o ∈ openers.filter (· ≠ "") := List.mem_filter.mpr ⟨ho, by simpa using hne⟩
    have hfound : afterFirst? o.toList o.toList = some [] := by
      have hself : afterFirst? o.toList ([] ++ (o.toList ++ [])) = some [] :=
        afterFirst?_append (fun hnil => hne (String.toList_eq_nil_iff.mp hnil)) (by simp)
      simpa using hself
    have hcode := h o.toList
    unfold classify at hcode
    dsimp only at hcode
    split at hcode
    · cases hcode
    · split at hcode
      · cases hcode
      · next hnone =>
        rw [find?_eq_none_iff.mp hnone o hactive] at hfound
        cases hfound
  · intro h cs
    have hactive : openers.filter (· ≠ "") = [] := by
      simpa [List.filter_eq_nil_iff] using h
    simp only [classify, hactive]
    rfl

/-- What a search finds, it finds under one of the openers. -/
theorem find?_sound {after? : List Char → Option (List Char)} {openers : List String} {o : String}
    {text : List Char} (h : find? after? openers = some (o, text)) :
    o ∈ openers ∧ after? o.toList = some text := by
  obtain ⟨o', ho', hmap⟩ := List.exists_of_findSome?_eq_some h
  rw [Option.map_eq_some_iff] at hmap
  obtain ⟨rest, hrest, heq⟩ := hmap
  cases heq
  exact ⟨ho', hrest⟩

/-- A comment is made of what stands in its line. -/
theorem comment_subset (openers : List String) (l : List Char) :
    (classify openers l).comment ⊆ l := by
  unfold classify
  dsimp only
  split
  · next o text h =>
    have hstart := afterStart?_eq_some_iff.mp (find?_sound h).2
    intro c hc
    have hmem : c ∈ Text.trimStart l := by
      rw [hstart]
      exact List.mem_append_right o.toList hc
    exact (List.dropWhile_suffix Text.isBlank).mem hmem
  · split
    · next o text h =>
      obtain ⟨before, hl⟩ := afterFirst?_sound (find?_sound h).2
      intro c hc
      rw [hl]
      exact List.mem_append_right _ hc
    · exact List.nil_subset l

end Line

end FixturePragmas
