import FixturePragmas.Text.Lines
import Mathlib.Data.List.Chain

/-!
# Line ends

A text may end its lines in three ways, each line in its own. Read back, all its lines end in LF and
stay what they are (`unifyNewlines_written`), with one exception that no reader can avoid: a line
that ends in a lone CR runs together with an empty line behind it that ends in LF.
-/

namespace FixturePragmas.Text

/-- The ways to end a line. -/
inductive LineEnd where
  | lf
  | crlf
  | cr
  deriving DecidableEq, Repr

/-- The characters that end a line. -/
def LineEnd.chars : LineEnd → List Char
  | lf => ['\n']
  | crlf => ['\r', '\n']
  | cr => ['\r']

/-- A line and how it ends. -/
structure EndedLine where
  chars : List Char
  ending : LineEnd
  deriving DecidableEq, Repr

/-- The line with its end. -/
def EndedLine.text (l : EndedLine) : List Char := l.chars ++ l.ending.chars

/-- Whether the two lines stay two when one follows the other. -/
def EndedLine.Apart (l l' : EndedLine) : Prop := ¬(l.ending = .cr ∧ l' = ⟨[], .lf⟩)

instance (l l' : EndedLine) : Decidable (l.Apart l') := inferInstanceAs (Decidable (¬_))

/-- Lines with their ends, one after the other. -/
def written (ls : List EndedLine) : List Char := ls.flatMap EndedLine.text

/-- Whether a text has no characters of line ends in it. -/
def Unbroken (cs : List Char) : Prop := '\n' ∉ cs ∧ '\r' ∉ cs

instance (cs : List Char) : Decidable (Unbroken cs) := inferInstanceAs (Decidable (_ ∧ _))

theorem unifyNewlines_cons_of_ne {c : Char} (h : c ≠ '\r') (rest : List Char) :
    unifyNewlines (c :: rest) = c :: unifyNewlines rest := by
  rw [unifyNewlines, if_neg h]
  rintro _ rfl
  exact absurd rfl h

/-- A CR without an LF behind it ends a line by itself. -/
theorem unifyNewlines_cr {rest : List Char} (h : '\n' ∉ rest.head?) :
    unifyNewlines ('\r' :: rest) = '\n' :: unifyNewlines rest := by
  rw [unifyNewlines, if_pos rfl]
  rintro rest' - rfl
  exact h rfl

theorem unifyNewlines_unbroken_append {cs : List Char} (h : Unbroken cs) (rest : List Char) :
    unifyNewlines (cs ++ rest) = cs ++ unifyNewlines rest := by
  obtain ⟨-, hcr⟩ := h
  induction cs with
  | nil => rfl
  | cons c cs ih =>
    rw [List.mem_cons, not_or] at hcr
    rw [List.cons_append, unifyNewlines_cons_of_ne (Ne.symm hcr.1), ih hcr.2, List.cons_append]

/-- A text that starts with LF starts with an empty line that ends so. -/
theorem eq_empty_of_newline_mem_head? {ls : List EndedLine} {last : List Char}
    (hls : ∀ l ∈ ls, Unbroken l.chars) (hlast : Unbroken last)
    (h : '\n' ∈ (written ls ++ last).head?) : ∃ ls', ls = ⟨[], .lf⟩ :: ls' := by
  cases ls with
  | nil => exact absurd (List.mem_of_mem_head? h) hlast.1
  | cons l ls =>
    obtain ⟨chars, ending⟩ := l
    cases chars with
    | nil =>
      cases ending with
      | lf => exact ⟨ls, rfl⟩
      | crlf | cr =>
        have hc : '\r' = '\n' := Option.some.inj h
        exact absurd hc (by decide)
    | cons c chars =>
      have hc : c = '\n' := Option.some.inj h
      exact absurd (hc ▸ List.mem_cons_self) (hls ⟨c :: chars, ending⟩ (by simp)).1

/-- Whatever way the lines end in, they are read as the same lines, each ended by LF. A last line
without an end stays without. -/
theorem unifyNewlines_written {ls : List EndedLine} {last : List Char}
    (hls : ∀ l ∈ ls, Unbroken l.chars) (hlast : Unbroken last)
    (hapart : ls.IsChain EndedLine.Apart) :
    unifyNewlines (written ls ++ last) = unlines (ls.map (·.chars)) ++ last := by
  induction ls with
  | nil =>
    have hend := unifyNewlines_unbroken_append hlast []
    rw [List.append_nil, unifyNewlines, List.append_nil] at hend
    exact hend
  | cons l ls ih =>
    have hrest := ih (fun l' hl' => hls l' (List.mem_cons_of_mem l hl')) hapart.of_cons
    have hline : Unbroken l.chars := hls l List.mem_cons_self
    have hsplit : written (l :: ls) ++ last =
        l.chars ++ (l.ending.chars ++ (written ls ++ last)) := by
      simp [written, EndedLine.text]
    have hend : unifyNewlines (l.ending.chars ++ (written ls ++ last)) =
        '\n' :: unifyNewlines (written ls ++ last) := by
      cases hl : l.ending with
      | lf => exact unifyNewlines_cons_of_ne (by decide) _
      | crlf => rfl
      | cr =>
        -- a lone CR would be one line end with an LF behind it, which the hypothesis excludes
        refine unifyNewlines_cr fun hhead => ?_
        have hrun := fun l' hl' => hls l' (List.mem_cons_of_mem l hl')
        obtain ⟨ls', rfl⟩ := eq_empty_of_newline_mem_head? hrun hlast hhead
        exact hapart.rel ⟨hl, rfl⟩
    rw [hsplit, unifyNewlines_unbroken_append hline, hend, hrest]
    simp [unlines]

end FixturePragmas.Text
