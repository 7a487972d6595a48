import FixturePragmas.Proofs.Scan.Local

/-!
# Comments that declare nothing

A line that is nothing but a comment and declares nothing hands on what waits above it and adds
nothing to that. So it may be put in anywhere, between a declaration and its line of code too: the
walk over the lines goes on below it as before, only with the numbers one further on
(`Scan.attachments_insert`).
-/

namespace FixturePragmas

/-- Entries of a table when a line is put in below line `k`: those further down move on by one. -/
def Table.opened (k : Nat) (es : List (Int × Pragma)) : List (Int × Pragma) :=
  es.map fun e => (if (k : Int) < e.1 then e.1 + 1 else e.1, e.2)

/-- A comment that can be read and declares nothing holds no declaration, nor a numeral of one. -/
theorem Declaration.numerals_eq_nil_of_ofComment {cs : List Char} (h : ofComment cs = .ok []) :
    numerals cs = [] ∧ declared cs = [] := by
  rw [ofComment_eq] at h
  obtain ⟨-, hnone⟩ := Text.Numeral.unlessTooLong_eq_ok_iff.mp h
  have hall : Written.all cs = [] := List.map_eq_nil_iff.mp hnone
  exact ⟨by rw [numerals, hall, List.flatMap_nil], hnone⟩

namespace Scan

/-- A line of prose among others only moves the numbers of the lines below it. -/
theorem attachments_insert (n : Nat) (waiting : List Declaration) (ls ms : List ReadLine)
    {l : ReadLine} (hcomment : l.isComment = true) (hnone : l.declarations = []) :
    attachments n waiting (ls ++ l :: ms) =
      (attachments n waiting (ls ++ ms)).map
        fun a => (if n + ls.length ≤ a.1 then a.1 + 1 else a.1, a.2) := by
  have habove : (attachments n waiting ls).map
      (fun a => (if n + ls.length ≤ a.1 then a.1 + 1 else a.1, a.2)) =
        attachments n waiting ls := by
    refine (List.map_congr_left fun a ha => ?_).trans (List.map_id _)
    rw [if_neg (Nat.not_le.mpr (mem_attachments_bounds ha).2)]
    rfl
  have hbelow : (attachments (n + ls.length) (leftOver waiting ls) ms).map
      (fun a => (if n + ls.length ≤ a.1 then a.1 + 1 else a.1, a.2)) =
        attachments (n + ls.length + 1) (leftOver waiting ls) ms := by
    rw [attachments_add (n + ls.length) 1]
    exact List.map_congr_left fun a ha => by rw [if_pos (mem_attachments_bounds ha).1]
  -- the line of prose hands on to `ms` what `ls` left over
  rw [attachments_append, attachments_append, List.map_append, habove, hbelow, attachments,
    if_pos hcomment, hnone, List.append_nil]

theorem entries_tableOf_insert (ls ms : List ReadLine) {l : ReadLine}
    (hcomment : l.isComment = true) (hnone : l.declarations = []) :
    (tableOf (ls ++ l :: ms)).entries = Table.opened ls.length (tableOf (ls ++ ms)).entries := by
  rw [entries_tableOf, entries_tableOf, attachments_insert 1 [] ls ms hcomment hnone, Table.opened,
    List.map_map, List.map_map]
  refine List.map_congr_left fun a _ => Prod.ext ?_ rfl
  show ((if 1 + ls.length ≤ a.1 then a.1 + 1 else a.1 : Nat) : Int) =
    if (ls.length : Int) < a.1 then (a.1 : Int) + 1 else a.1
  split <;> split <;> omega

end Scan

/-- A line of prose may be put in anywhere: if the line `l` is nothing but a comment and declares
nothing, the table of a text with this line between its lines `above` and `below` is that of the text
without it, the lines from there on numbered one further. If the one text is not read, the other is
not either, and for the same reason. -/
theorem scan_unlines_insert {openers : List String} {above below : List (List Char)} {l : List Char}
    (hlines : ∀ l' ∈ above ++ l :: below, '\n' ∉ l')
    (hkind : (Line.classify openers l).kind = .commentOnly)
    (hnone : Declaration.ofComment (Line.classify openers l).comment = .ok []) :
    (scan openers (Text.unlines (above ++ l :: below))).map Dict.entries =
      (scan openers (Text.unlines (above ++ below))).map
        fun t => Table.opened above.length t.entries := by
  have hothers : ∀ l' ∈ above ++ below, '\n' ∉ l' := fun l' hl' =>
    hlines l' ((List.sublist_cons_self l below).append_left above |>.mem hl')
  obtain ⟨hnumerals, hdeclared⟩ := Declaration.numerals_eq_nil_of_ofComment hnone
  have hsame : Scan.numerals openers (Text.unlines (above ++ l :: below)) =
      Scan.numerals openers (Text.unlines (above ++ below)) := by
    rw [Scan.numerals, Scan.numerals, Text.lines_unlines hlines, Text.lines_unlines hothers,
      List.flatMap_append, List.flatMap_append, List.flatMap_cons, hnumerals, List.nil_append]
  have hcomment : (ReadLine.seen openers l).isComment = true := decide_eq_true hkind
  have htable := Scan.entries_tableOf_insert (above.map (ReadLine.seen openers))
    (below.map (ReadLine.seen openers)) hcomment hdeclared
  rw [List.length_map] at htable
  rw [scan_eq, scan_eq, Text.Numeral.map_unlessTooLong, Text.Numeral.map_unlessTooLong, hsame,
    Scan.readLines, Scan.readLines, Text.lines_unlines hlines, Text.lines_unlines hothers,
    List.map_append, List.map_append, List.map_cons, htable]

/-- Prose with a blank group, put in between a declaration and the line of code that takes it. -/
theorem scan_unlines_insert_blankGroup :
    (∀ l' ∈ ["x # [A]".toList, "# [B]: 2".toList] ++ " # see [ ]: 3".toList :: ["y".toList],
        '\n' ∉ l') ∧
      (Line.classify ["#"] " # see [ ]: 3".toList).kind = .commentOnly ∧
      Declaration.ofComment (Line.classify ["#"] " # see [ ]: 3".toList).comment = .ok [] ∧
      (scan ["#"] (Text.unlines (["x # [A]".toList, "# [B]: 2".toList] ++
          " # see [ ]: 3".toList :: ["y".toList]))).map Dict.entries =
        (scan ["#"] (Text.unlines (["x # [A]".toList, "# [B]: 2".toList] ++ ["y".toList]))).map
          fun t => Table.opened 2 t.entries := by
  have hlines : ∀ l' ∈ ["x # [A]".toList, "# [B]: 2".toList] ++ " # see [ ]: 3".toList ::
      ["y".toList], '\n' ∉ l' := by decide
  have hkind : (Line.classify ["#"] " # see [ ]: 3".toList).kind = .commentOnly := by decide +kernel
  have hnone : Declaration.ofComment (Line.classify ["#"] " # see [ ]: 3".toList).comment = .ok [] := by
    decide +kernel
  exact ⟨hlines, hkind, hnone, scan_unlines_insert hlines hkind hnone⟩

end FixturePragmas
