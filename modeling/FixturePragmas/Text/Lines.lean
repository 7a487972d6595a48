/-!
# Lines

Text read from a file may end its lines with LF, CR LF or a lone CR; `unifyNewlines` leaves LF
alone. A text is split at its LFs: a final LF ends the last line and does not open another.
-/

namespace FixturePragmas.Text

/-- Every line end as LF. -/
def unifyNewlines : List Char → List Char
  | [] => []
  | '\r' :: '\n' :: rest => '\n' :: unifyNewlines rest
  | c :: rest => (if c = '\r' then '\n' else c) :: unifyNewlines rest

/-- The lines of a text. -/
def lines : List Char → List (List Char)
  | [] => []
  | c :: rest =>
    if c = '\n' then [] :: lines rest
    else
      match lines rest with
      | [] => [[c]]
      | l :: ls => (c :: l) :: ls

/-- The text whose lines are `ls`, each ended by LF. -/
def unlines (ls : List (List Char)) : List Char := ls.flatMap (· ++ ['\n'])

@[simp] theorem lines_nil : lines [] = [] := rfl

theorem lines_newline_cons (cs : List Char) : lines ('\n' :: cs) = [] :: lines cs := by
  simp [lines]

/-- A line that is followed by LF comes first, and the rest is split by itself. -/
theorem lines_line_append {l : List Char} (h : '\n' ∉ l) (cs : List Char) :
    lines (l ++ '\n' :: cs) = l :: lines cs := by
  induction l with
  | nil => exact lines_newline_cons cs
  | cons c l ih =>
    rw [List.mem_cons, not_or] at h
    rw [List.cons_append, lines, if_neg (Ne.symm h.1), ih h.2]

/-- No line holds an LF. -/
theorem newline_not_mem_of_mem_lines {content l : List Char} (h : l ∈ lines content) :
    '\n' ∉ l := by
  induction content generalizing l with
  | nil => exact absurd h List.not_mem_nil
  | cons c rest ih =>
    by_cases hc : c = '\n'
    · rw [hc, lines_newline_cons, List.mem_cons] at h
      rcases h with rfl | h
      · exact List.not_mem_nil
      · exact ih h
    · rw [lines, if_neg hc] at h
      cases hrest : lines rest with
      | nil =>
        rw [hrest, List.mem_singleton] at h
        rw [h, List.mem_singleton]
        exact Ne.symm hc
      | cons l' ls =>
        rw [hrest, List.mem_cons] at h
        rcases h with rfl | h
        · rw [List.mem_cons, not_or]
          exact ⟨Ne.symm hc, ih (by simp [hrest])⟩
        · exact ih (by simp [hrest, h])

/-- Splitting gives back the lines that were written. -/
theorem lines_unlines_append {ls : List (List Char)} (h : ∀ l ∈ ls, '\n' ∉ l) (cs : List Char) :
    lines (unlines ls ++ cs) = ls ++ lines cs := by
  induction ls with
  | nil => rfl
  | cons l ls ih =>
    have hl : unlines (l :: ls) ++ cs = l ++ '\n' :: (unlines ls ++ cs) := by simp [unlines]
    rw [hl, lines_line_append (h l (by simp)), ih fun l' hl' => h l' (by simp [hl'])]
    rfl

theorem lines_unlines {ls : List (List Char)} (h : ∀ l ∈ ls, '\n' ∉ l) : lines (unlines ls) = ls := by
  have hsplit := lines_unlines_append h []
  rwa [List.append_nil, lines_nil, List.append_nil] at hsplit

end FixturePragmas.Text
