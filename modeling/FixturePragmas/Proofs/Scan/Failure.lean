import FixturePragmas.Proofs.Declaration.Grammar

/-!
# When a scan fails

Prose, stray brackets and broken declarations never make a scan fail; the one thing that does is a
column with more digits than a numeral may have. The condition given here is exact, for comments and
for whole texts, and it says which numeral is reported: the first that is too long, in the order of
the text.
-/

namespace FixturePragmas

open Text.Numeral

/-- Reading ends in a table unless a column is too long, and then the first such column is the
failure. The same holds of every single comment. -/
theorem scan_fails_iff_long_column (openers : List String) (content : List Char) :
    ((∃ t, scan openers content = .ok t) ↔
        ∀ ds ∈ Scan.numerals openers content, ds.length ≤ limit) ∧
      (∀ e, scan openers content = .error e ↔
        ∃ ds, (Scan.numerals openers content).find? tooLong = some ds ∧ e = .tooLong ds.length) ∧
      ∀ cs,
        ((∃ ds, Declaration.ofComment cs = .ok ds) ↔
          ∀ ds ∈ Declaration.numerals cs, ds.length ≤ limit) ∧
        ∀ e, Declaration.ofComment cs = .error e ↔
          ∃ ds, (Declaration.numerals cs).find? tooLong = some ds ∧ e = .tooLong ds.length := by
  refine ⟨?_, fun e => ?_, fun cs => ⟨?_, fun e => ?_⟩⟩
  · rw [scan_eq]
    exact exists_unlessTooLong_eq_ok_iff
  · rw [scan_eq]
    exact unlessTooLong_eq_error_iff
  · rw [Declaration.ofComment_eq]
    exact exists_unlessTooLong_eq_ok_iff
  · rw [Declaration.ofComment_eq]
    exact unlessTooLong_eq_error_iff

/-- The line of code `x` with the column `ds` declared under the code `A`. -/
def Scan.lineWithColumn (ds : List Char) : List Char := "x #[A]:".toList ++ ds

theorem Scan.numerals_lineWithColumn {ds : List Char} (hds : Declaration.Grammar.IsNumeral ds) :
    Scan.numerals ["#"] (lineWithColumn ds ++ ['\n']) = [ds] := by
  open Declaration Declaration.Grammar in
  have hcode : IsCode ['A'] := isCode_singleton ⟨by decide, by decide⟩ rfl
  have hlist : EntryList ([] ++ ds ++ []) [.column ds none] :=
    .last Text.blank_nil (.column hds) Text.blank_nil
  have htext : Pragmas ("[A]:".toList ++ ([] ++ ds ++ [])) [⟨['A'], [.column ds none]⟩] :=
    .last (.listed Text.blank_nil hcode Text.blank_nil Text.blank_nil hlist)
  have hread : Written.all ("[A]:".toList ++ ds) = [⟨['A'], [.column ds none]⟩] := by
    have hall := all_pragmas (List.not_mem_nil (a := ']')) htext List.not_mem_nil ends_nil
    simpa using hall
  have hline : '\n' ∉ lineWithColumn ds := by
    intro hmem
    rcases List.mem_append.mp hmem with h | h
    · exact absurd h (by decide)
    · exact absurd (hds.2 _ h) (by decide)
  have hclass : Line.classify ["#"] (lineWithColumn ds) =
      .codeWithComment "#" ("[A]:".toList ++ ds) := rfl
  have hnumerals : Declaration.numerals ("[A]:".toList ++ ds) = [ds] := by
    rw [Declaration.numerals, hread]
    rfl
  rw [Scan.numerals, Text.lines_line_append hline, Text.lines_nil, List.flatMap_singleton, hclass]
  exact hnumerals

theorem scan_lineWithColumn {ds : List Char} (hds : Declaration.Grammar.IsNumeral ds)
    (hlong : limit < ds.length) :
    scan ["#"] (Scan.lineWithColumn ds ++ ['\n']) = .error (.tooLong ds.length) := by
  have htoo : tooLong ds = true := decide_eq_true hlong
  rw [scan_eq, unlessTooLong_eq_error_iff]
  refine ⟨ds, ?_, rfl⟩
  rw [Scan.numerals_lineWithColumn hds, List.find?_cons_of_pos htoo]

/-- A column of 4301 digits makes a scan fail. -/
theorem scan_long_column :
    scan ["#"] (Scan.lineWithColumn (List.replicate 4301 '1') ++ ['\n']) =
      .error (.tooLong 4301) := by
  have hlength : (List.replicate 4301 '1').length = 4301 := List.length_replicate
  have hds : Declaration.Grammar.IsNumeral (List.replicate 4301 '1') := by
    refine ⟨List.ne_nil_of_length_eq_add_one hlength, fun c hc => ?_⟩
    rw [List.eq_of_mem_replicate hc]
    decide
  have hscan := scan_lineWithColumn hds (by rw [hlength]; decide)
  rwa [hlength] at hscan

end FixturePragmas
