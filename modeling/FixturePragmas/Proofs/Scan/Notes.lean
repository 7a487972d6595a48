import FixturePragmas.Proofs.Journal
import FixturePragmas.Scan

/-!
# The notes of a scan

A scan that writes its notes while it goes on ends as one without notes does
(`outcome_scanWithNotes`). If all lines can be read, what it has written in the end are the notes on
these lines (`entries_scanWithNotes`).
-/

namespace FixturePragmas

open Text (Numeral.Error)

namespace Scan

/-! ### Comments -/

theorem outcome_commentWithNotes (cs : List Char) :
    (commentWithNotes cs).outcome = Declaration.ofComment cs := by
  unfold commentWithNotes Declaration.ofComment
  rw [Journal.outcome_mapM]
  refine congrArg (fun f => List.mapM f _) (funext fun w => ?_)
  rw [Journal.outcome_bind, Journal.outcome_ofExcept]
  cases w.declaration? <;> rfl

theorem entries_commentWithNotes {cs : List Char} {ds : List Declaration}
    (h : Declaration.ofComment cs = .ok ds) :
    (commentWithNotes cs).entries = ds.map declarationNote := by
  unfold Declaration.ofComment at h
  unfold commentWithNotes
  generalize Declaration.Written.all cs = ws at h ⊢
  rw [Steps.mapM_eq_ok_iff] at h
  induction h with
  | nil => rfl
  | @cons w d ws ds hw _ ih =>
    rw [Journal.entries_mapM_cons, hw, ih]
    rfl

/-! ### Lines -/

variable (openers : List String)

theorem outcome_lineWithNotes (n : Nat) (cs : List Char) :
    (lineWithNotes openers n cs).outcome = ReadLine.ofLine openers cs := by
  show (commentWithNotes (Line.classify openers cs).comment >>= _).outcome =
    (Declaration.ofComment (Line.classify openers cs).comment).map _
  rw [Journal.outcome_bind, outcome_commentWithNotes]
  cases Declaration.ofComment (Line.classify openers cs).comment <;> rfl

theorem entries_lineWithNotes {n : Nat} {cs : List Char} {l : ReadLine}
    (h : ReadLine.ofLine openers cs = .ok l) :
    (lineWithNotes openers n cs).entries =
      .lineRead n l.kind :: l.declarations.map declarationNote := by
  obtain ⟨ds, hds, rfl⟩ := Steps.map_eq_ok_iff.mp h
  have hcomment : (commentWithNotes (Line.classify openers cs).comment).outcome = .ok ds := by
    rw [outcome_commentWithNotes, hds]
  unfold lineWithNotes
  rw [Journal.entries_bind_of_ok rfl, Journal.entries_bind_of_ok hcomment,
    entries_commentWithNotes hds]
  exact congrArg (_ :: ·) (List.append_nil _)

/-! ### Texts -/

theorem outcome_linesWithNotes (n : Nat) (waiting : List Declaration) (css : List (List Char)) :
    (linesWithNotes openers n waiting css).outcome = css.mapM (ReadLine.ofLine openers) := by
  induction css generalizing n waiting with
  | nil => rfl
  | cons cs css ih =>
    rw [linesWithNotes, List.mapM_cons, Journal.outcome_bind, outcome_lineWithNotes]
    refine congrArg _ (funext fun l => ?_)
    show (linesWithNotes openers _ _ css >>= _).outcome = _
    rw [Journal.outcome_bind, ih]
    rfl

/-- One line, and then the others. -/
theorem notesFrom_cons (n : Nat) (waiting : List Declaration) (l : ReadLine) (ls : List ReadLine) :
    notesFrom n waiting (l :: ls) =
      (.lineRead n l.kind :: l.declarations.map declarationNote) ++
        (notesOnTaking n l (waiting ++ l.declarations) ++
          notesFrom (n + 1) (if l.isComment then waiting ++ l.declarations else []) ls) := by
  rw [notesFrom, notesOnTaking]
  by_cases hcomment : l.isComment = true
  · rw [if_pos hcomment, if_pos (.inl hcomment), if_pos hcomment, List.nil_append]
  · rw [if_neg hcomment, if_neg hcomment]
    by_cases hds : waiting ++ l.declarations = []
    · rw [if_pos hds, if_pos (.inr hds), List.nil_append]
    · rw [if_neg hds, if_neg (not_or.mpr ⟨hcomment, hds⟩), List.singleton_append]

/-- What is noted on lines that can all be read. -/
theorem entries_linesWithNotes {css : List (List Char)} {ls : List ReadLine}
    (h : css.mapM (ReadLine.ofLine openers) = .ok ls) (n : Nat) (waiting : List Declaration) :
    (linesWithNotes openers n waiting css).entries = notesFrom n waiting ls := by
  rw [Steps.mapM_eq_ok_iff] at h
  -- along the lines; what waits differs from line to line, so it is left open
  induction h generalizing n waiting with
  | nil => exact List.append_nil _
  | @cons cs l css ls hl hls ih =>
    have hline : (lineWithNotes openers n cs).outcome = .ok l := by
      rw [outcome_lineWithNotes, hl]
    have hrest : ∀ ds, (linesWithNotes openers (n + 1) ds css).outcome = .ok ls := fun ds => by
      rw [outcome_linesWithNotes, Steps.mapM_eq_ok_iff.mpr hls]
    rw [linesWithNotes, Journal.entries_bind_of_ok hline, entries_lineWithNotes openers hl,
      notesFrom_cons, Journal.entries_bind_of_ok rfl, Journal.entries_bind_of_ok (hrest _), ih]
    exact congrArg (_ ++ ·) (congrArg (_ ++ ·) (List.append_nil _))

end Scan

theorem outcome_scanWithNotes (openers : List String) (content : List Char) :
    (scanWithNotes openers content).outcome = scan openers content := by
  unfold scanWithNotes scan ReadLine.ofText
  rw [Journal.outcome_bind, Scan.outcome_linesWithNotes]
  cases (Text.lines content).mapM (ReadLine.ofLine openers) <;> rfl

theorem entries_scanWithNotes {openers : List String} {content : List Char} {ls : List ReadLine}
    (h : ReadLine.ofText openers content = .ok ls) :
    (scanWithNotes openers content).entries = Scan.notes ls := by
  have hlines : (Scan.linesWithNotes openers 1 [] (Text.lines content)).outcome = .ok ls := by
    rw [Scan.outcome_linesWithNotes]
    exact h
  unfold scanWithNotes
  rw [Journal.entries_bind_of_ok hlines, Scan.entries_linesWithNotes openers h]
  exact List.append_nil _

end FixturePragmas
