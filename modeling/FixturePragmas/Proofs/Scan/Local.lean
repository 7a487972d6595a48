import FixturePragmas.Proofs.Dict
import FixturePragmas.Proofs.Limit

/-!
# Scanning a text in two parts

What a walk over the lines carries down is only what waits in the comments directly above
(`Scan.leftOver`), and behind a line that is not only a comment nothing waits. A text that is cut
behind such a line is scanned part by part: the table of the whole is the table of the upper part,
followed by the table of the lower part with its lines numbered on (`Scan.entries_tableOf_append`).
So nothing above such a line reaches below it.
-/

namespace FixturePragmas

open Text.Numeral (limit)

namespace Scan

/-! ### The walk over two parts -/

/-- The walk goes on below `ls` with the declarations that `ls` leaves over. -/
theorem attachments_append (n : Nat) (waiting : List Declaration) (ls ms : List ReadLine) :
    attachments n waiting (ls ++ ms) =
      attachments n waiting ls ++ attachments (n + ls.length) (leftOver waiting ls) ms := by
  induction ls generalizing n waiting with
  | nil => rfl
  | cons l ls ih =>
    have hnumber : n + (l :: ls).length = n + 1 + ls.length := by
      rw [List.length_cons]
      omega
    rw [List.cons_append, hnumber, attachments, attachments, leftOver]
    by_cases hc : l.isComment = true
    · rw [if_pos hc, if_pos hc, if_pos hc, ih]
    · rw [if_neg hc, if_neg hc, if_neg hc]
      by_cases hds : waiting ++ l.declarations = []
      · rw [if_pos hds, if_pos hds, ih]
      · rw [if_neg hds, if_neg hds, ih, List.cons_append]

/-- Behind a line that is not only a comment nothing waits. -/
theorem leftOver_concat_code (waiting : List Declaration) (ls : List ReadLine) {l : ReadLine}
    (h : l.isComment = false) : leftOver waiting (ls ++ [l]) = [] := by
  induction ls generalizing waiting with
  | nil =>
    rw [List.nil_append, leftOver, h]
    rfl
  | cons l' ls ih =>
    rw [List.cons_append, leftOver]
    split
    · exact ih _
    · exact ih _

/-- Where the numbering starts makes no difference but to the numbers. -/
theorem attachments_add (n k : Nat) (waiting : List Declaration) (ls : List ReadLine) :
    attachments (n + k) waiting ls =
      (attachments n waiting ls).map fun a => (a.1 + k, a.2) := by
  induction ls generalizing n waiting with
  | nil => rfl
  | cons l ls ih =>
    have hnumber : n + k + 1 = n + 1 + k := by omega
    rw [attachments, attachments, hnumber]
    by_cases hc : l.isComment = true
    · rw [if_pos hc, if_pos hc, ih]
    · rw [if_neg hc, if_neg hc]
      by_cases hds : waiting ++ l.declarations = []
      · rw [if_pos hds, if_pos hds, ih]
      · rw [if_neg hds, if_neg hds, ih, List.map_cons]

/-- The declarations go to lines among those that are walked. -/
theorem mem_attachments_bounds {n : Nat} {waiting : List Declaration} {ls : List ReadLine}
    {a : Nat × List Declaration} (h : a ∈ attachments n waiting ls) :
    n ≤ a.1 ∧ a.1 < n + ls.length := by
  induction ls generalizing n waiting with
  | nil => exact absurd h List.not_mem_nil
  | cons l ls ih =>
    rw [List.length_cons]
    rw [attachments] at h
    split at h
    · have := ih h
      omega
    · split at h
      · have := ih h
        omega
      · rcases List.mem_cons.mp h with rfl | h
        · exact ⟨Nat.le_refl n, by dsimp only; omega⟩
        · have := ih h
          omega

theorem nodup_attachments (n : Nat) (waiting : List Declaration) (ls : List ReadLine) :
    ((attachments n waiting ls).map Prod.fst).Nodup := by
  induction ls generalizing n waiting with
  | nil => exact List.nodup_nil
  | cons l ls ih =>
    rw [attachments]
    split
    · exact ih _ _
    · split
      · exact ih _ _
      · rw [List.map_cons, List.nodup_cons]
        refine ⟨fun hmem => ?_, ih _ _⟩
        obtain ⟨a, ha, hn⟩ := List.mem_map.mp hmem
        have := (mem_attachments_bounds ha).1
        omega

/-! ### The table of two parts -/

/-- What a line takes, as an entry of a table. -/
def entryOf (a : Nat × List Declaration) : Int × Pragma :=
  ((a.1 : Int), Pragma.ofDeclarations a.2)

theorem entries_tableOf (ls : List ReadLine) :
    (tableOf ls).entries = (attachments 1 [] ls).map entryOf := by
  refine Dict.entries_ofList ?_
  have hkeys : ((attachments 1 [] ls).map entryOf).map Prod.fst =
      ((attachments 1 [] ls).map Prod.fst).map Int.ofNat := by
    rw [List.map_map, List.map_map]
    rfl
  exact hkeys ▸ (nodup_attachments 1 [] ls).map fun a b hab => Int.ofNat.inj hab

/-- The lines of a table lie among those of the text. -/
theorem le_length_of_mem_tableOf {ls : List ReadLine} {e : Int × Pragma}
    (h : e ∈ (tableOf ls).entries) : 1 ≤ e.1 ∧ e.1 ≤ ls.length := by
  rw [entries_tableOf] at h
  obtain ⟨a, ha, rfl⟩ := List.mem_map.mp h
  have hbounds := mem_attachments_bounds ha
  have hnumber : (entryOf a).1 = (a.1 : Int) := rfl
  omega

end Scan

/-- Entries of a table with the numbers of lines that stand `k` lines further down. -/
def Table.shifted (k : Nat) (es : List (Int × Pragma)) : List (Int × Pragma) :=
  es.map fun e => (e.1 + k, e.2)

/-- What a table holds below line `k`, the lines numbered from there. -/
def Table.below (k : Nat) (t : Table) : List (Int × Pragma) :=
  (t.entries.filter fun e => decide ((k : Int) < e.1)).map fun e => (e.1 - k, e.2)

namespace Scan

/-- Behind lines that leave nothing over, the table goes on with that of the other lines. -/
theorem entries_tableOf_append {ls : List ReadLine} (h : leftOver [] ls = [])
    (ms : List ReadLine) :
    (tableOf (ls ++ ms)).entries =
      (tableOf ls).entries ++ Table.shifted ls.length (tableOf ms).entries := by
  have hshift : (attachments (1 + ls.length) [] ms).map entryOf =
      Table.shifted ls.length ((attachments 1 [] ms).map entryOf) := by
    rw [attachments_add, List.map_map, Table.shifted, List.map_map]
    rfl
  rw [entries_tableOf, entries_tableOf, entries_tableOf, attachments_append, h, List.map_append,
    hshift]

/-- Below them, there is only what the other lines hold by themselves. -/
theorem below_tableOf_append {ls : List ReadLine} (h : leftOver [] ls = []) (ms : List ReadLine) :
    (tableOf (ls ++ ms)).below ls.length = (tableOf ms).entries := by
  have habove : (tableOf ls).entries.filter (fun e => decide ((ls.length : Int) < e.1)) = [] := by
    refine List.filter_eq_nil_iff.mpr fun e he => ?_
    have := le_length_of_mem_tableOf he
    rw [decide_eq_true_eq]
    omega
  have hbelow : (Table.shifted ls.length (tableOf ms).entries).filter
      (fun e => decide ((ls.length : Int) < e.1)) =
        Table.shifted ls.length (tableOf ms).entries := by
    refine List.filter_eq_self.mpr fun e he => ?_
    obtain ⟨e', he', rfl⟩ := List.mem_map.mp he
    have := le_length_of_mem_tableOf he'
    rw [decide_eq_true_eq]
    dsimp only
    omega
  -- entries of the upper part fall away, those of the lower one are shifted and shifted back
  have hback : (Table.shifted ls.length (tableOf ms).entries).map
      (fun e => (e.1 - (ls.length : Int), e.2)) = (tableOf ms).entries := by
    rw [Table.shifted, List.map_map]
    refine (List.map_congr_left fun e _ => ?_).trans (List.map_id _)
    exact Prod.ext (Int.add_sub_cancel e.1 ls.length) rfl
  rw [Table.below, entries_tableOf_append h, List.filter_append, habove, hbelow, List.nil_append,
    hback]

/-! ### Texts in two parts -/

/-- The last of the lines `ls` is there and is not only a comment. -/
def EndInCode (openers : List String) (ls : List (List Char)) : Prop :=
  ∃ l ∈ ls.getLast?, (Line.classify openers l).kind ≠ .commentOnly

theorem EndInCode.leftOver {openers : List String} {ls : List (List Char)}
    (h : EndInCode openers ls) (waiting : List Declaration) :
    Scan.leftOver waiting (ls.map (ReadLine.seen openers)) = [] := by
  obtain ⟨l, hl, hkind⟩ := h
  obtain ⟨above, rfl⟩ := List.getLast?_eq_some_iff.mp hl
  rw [List.map_append, List.map_singleton]
  exact leftOver_concat_code waiting _ (decide_eq_false hkind)

theorem numerals_unlines_append (openers : List String) {ls : List (List Char)}
    (h : ∀ l ∈ ls, '\n' ∉ l) (b : List Char) :
    numerals openers (Text.unlines ls ++ b) =
      numerals openers (Text.unlines ls) ++ numerals openers b := by
  rw [numerals, numerals, numerals, Text.lines_unlines_append h, Text.lines_unlines h,
    List.flatMap_append]

/-- The three tables, if no numeral of the whole text is too long. -/
theorem eq_ok_tableOf_unlines_append {openers : List String} {ls : List (List Char)}
    (hlines : ∀ l ∈ ls, '\n' ∉ l) {b : List Char}
    (h : ∀ ds ∈ numerals openers (Text.unlines ls ++ b), ds.length ≤ limit) :
    scan openers (Text.unlines ls) = .ok (tableOf (ls.map (ReadLine.seen openers))) ∧
      scan openers b = .ok (tableOf (readLines openers b)) ∧
      scan openers (Text.unlines ls ++ b) =
        .ok (tableOf (ls.map (ReadLine.seen openers) ++ readLines openers b)) := by
  have hwhole := scan_eq_ok h
  rw [numerals_unlines_append openers hlines, List.forall_mem_append] at h
  have habove := scan_eq_ok h.1
  rw [readLines, Text.lines_unlines hlines] at habove
  rw [readLines, Text.lines_unlines_append hlines, List.map_append] at hwhole
  exact ⟨habove, scan_eq_ok h.2, hwhole⟩

end Scan

/-- A scan is local between lines of code. If the last of the lines `a` is not only a comment, the
table of a text that starts with these lines is their own table, followed by that of the rest `b`
with its lines numbered on. What is found below them is the same whatever other lines `a'` of this
sort stand in their place. -/
theorem scan_unlines_append (openers : List String) {a : List (List Char)}
    (hlines : ∀ l ∈ a, '\n' ∉ l) (hcode : Scan.EndInCode openers a) (b : List Char)
    (hshort : ∀ ds ∈ Scan.numerals openers (Text.unlines a ++ b), ds.length ≤ limit) :
    ∃ above rest whole, scan openers (Text.unlines a) = .ok above ∧ scan openers b = .ok rest ∧
      scan openers (Text.unlines a ++ b) = .ok whole ∧
      whole.entries = above.entries ++ Table.shifted a.length rest.entries ∧
      ∀ a' : List (List Char), (∀ l ∈ a', '\n' ∉ l) → Scan.EndInCode openers a' →
        (∀ ds ∈ Scan.numerals openers (Text.unlines a' ++ b), ds.length ≤ limit) →
        ∃ whole', scan openers (Text.unlines a' ++ b) = .ok whole' ∧
          whole'.below a'.length = whole.below a.length := by
  -- lines of code let nothing wait behind them, so what follows is scanned as by itself
  have hbelow : ∀ {ls : List (List Char)}, Scan.EndInCode openers ls →
      (Scan.tableOf (ls.map (ReadLine.seen openers) ++ Scan.readLines openers b)).below ls.length =
        (Scan.tableOf (Scan.readLines openers b)).entries := by
    intro ls hls
    have htable := Scan.below_tableOf_append (hls.leftOver []) (Scan.readLines openers b)
    rwa [List.length_map] at htable
  obtain ⟨habove, hrest, hwhole⟩ := Scan.eq_ok_tableOf_unlines_append hlines hshort
  refine ⟨_, _, _, habove, hrest, hwhole, ?_, fun a' hlines' hcode' hshort' => ?_⟩
  · have htable := Scan.entries_tableOf_append (hcode.leftOver []) (Scan.readLines openers b)
    rwa [List.length_map] at htable
  · obtain ⟨-, -, hwhole'⟩ := Scan.eq_ok_tableOf_unlines_append hlines' hshort'
    exact ⟨_, hwhole', (hbelow hcode').trans (hbelow hcode).symm⟩

/-- Two texts over the same rest: in the first, a comment waits for a line with a comment of its own
that declares nothing; the second ends in an empty line. -/
theorem scan_unlines_append_cutText :
    ∃ above rest whole whole',
      scan ["#"] (Text.unlines ["# [A]: 1".toList, "x # note".toList]) = .ok above ∧
      scan ["#"] "# [B]\n\n# [C]".toList = .ok rest ∧
      scan ["#"] (Text.unlines ["# [A]: 1".toList, "x # note".toList] ++ "# [B]\n\n# [C]".toList) =
        .ok whole ∧
      whole.entries = above.entries ++ Table.shifted 2 rest.entries ∧ whole.keys = [2, 4] ∧
      scan ["#"] (Text.unlines [[]] ++ "# [B]\n\n# [C]".toList) = .ok whole' ∧
      whole'.below 1 = whole.below 2 := by
  have hlines : ∀ l ∈ ["# [A]: 1".toList, "x # note".toList], '\n' ∉ l := by decide
  have hcode : Scan.EndInCode ["#"] ["# [A]: 1".toList, "x # note".toList] :=
    ⟨"x # note".toList, rfl, by decide +kernel⟩
  have hcode' : Scan.EndInCode ["#"] [[]] := ⟨[], rfl, by decide +kernel⟩
  obtain ⟨above, rest, whole, habove, hrest, hwhole, hentries, hother⟩ :=
    scan_unlines_append ["#"] hlines hcode "# [B]\n\n# [C]".toList (by decide +kernel)
  obtain ⟨whole', hwhole', hsame⟩ := hother [[]] (by decide) hcode' (by decide +kernel)
  have hkeys : (scan ["#"] (Text.unlines ["# [A]: 1".toList, "x # note".toList] ++
      "# [B]\n\n# [C]".toList)).map Dict.keys = .ok [2, 4] := by decide +kernel
  rw [hwhole] at hkeys
  exact ⟨above, rest, whole, whole', habove, hrest, hwhole, hentries, Except.ok.inj hkeys, hwhole',
    hsame⟩

end FixturePragmas
