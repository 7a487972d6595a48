import FixturePragmas.Proofs.Dict
import FixturePragmas.Proofs.Limit
import Mathlib.Data.List.DropRight

/-!
# The table of a text, looking back

`Scan.attachments` walks down the lines and carries the declarations that wait. The same table can
be said without anything carried: a line that is not only a comment takes what is declared in the
comments directly above it and then what its own comment declares. Here that table is defined
(`LookBack.table`) and a scan is shown to give it. The invariant of the walk is that the waiting
declarations are those of the comments that end the part already walked (`LookBack.waiting`).
-/

namespace FixturePragmas

/-! ### The definitions -/

namespace LookBack

/-- A text cut at every LF, without the last piece when that is empty. -/
def pieces (content : List Char) : List (List Char) :=
  let cut := content.splitOn '\n'
  if cut.getLast? = some [] then cut.dropLast else cut

/-- The codes of several declarations, each where it first occurs. -/
def codes (ds : List Declaration) : List String := (ds.map (·.code)).eraseDups

/-- The issues under the last of the declarations `ds` that has the code `c`. -/
def lastIssues (ds : List Declaration) (c : String) : List Issue :=
  ((ds.filter (·.code = c)).getLast?.map (·.issues)).getD []

theorem nodup_codes (ds : List Declaration) : (codes ds).Nodup := by
  unfold codes
  -- on the length, since `eraseDups` goes on with the filtered rest
  generalize ds.map (·.code) = cs
  induction h : cs.length using Nat.strongRecOn generalizing cs with
  | ind n ih =>
    cases cs with
    | nil => simp
    | cons c cs =>
      rw [List.eraseDups_cons, List.nodup_cons]
      refine ⟨?_, ih _ ?_ _ rfl⟩
      · rw [List.mem_eraseDups, List.mem_filter]
        simp
      · have hle := List.length_filter_le (fun b => !b == c) cs
        rw [List.length_cons] at h
        omega

/-- The pragma of several declarations: each code where it first occurs, with the issues of its last
declaration, and not hit. -/
def summary (ds : List Declaration) : Pragma where
  expectations :=
    { entries := (codes ds).map fun c => (c, ⟨lastIssues ds c, false⟩)
      nodup := by
        rw [List.map_map]
        show ((codes ds).map id).Nodup
        rw [List.map_id]
        exact nodup_codes ds }

section Lines

variable (openers : List String)

/-- Whether a line is nothing but a comment. -/
def isComment (l : List Char) : Bool := decide ((Line.classify openers l).kind = .commentOnly)

/-- The declarations read from the comment in a line. -/
def declaredIn (l : List Char) : List Declaration :=
  (Declaration.ofComment (Line.classify openers l).comment).toOption.getD []

/-- What is declared in the comments that end the lines `ls`. -/
def waiting (ls : List (List Char)) : List Declaration :=
  (ls.rtakeWhile (isComment openers)).flatMap (declaredIn openers)

/-- What is declared behind the code of a line. -/
def own (l : List Char) : List Declaration :=
  if (Line.classify openers l).kind = .codeWithComment then declaredIn openers l else []

/-- All that is declared for the line `e.1` with the number `e.2` among `ls`: in the comments
directly above it, then behind its own code. -/
def declarationsAt (ls : List (List Char)) (e : List Char × Nat) : List Declaration :=
  waiting openers (ls.take (e.2 - 1)) ++ own openers e.1

/-- Whether a line with its number belongs into the table of `ls`. -/
def carries (ls : List (List Char)) (e : List Char × Nat) : Bool :=
  !isComment openers e.1 && decide (declarationsAt openers ls e ≠ [])

/-- The entries of the table of `ls`, in the order of the lines, which are numbered from 1. -/
def entries (ls : List (List Char)) : List (Int × Pragma) :=
  ((ls.zipIdx 1).filter (carries openers ls)).map fun e =>
    ((e.2 : Int), summary (declarationsAt openers ls e))

theorem nodup_entries (ls : List (List Char)) : ((entries openers ls).map Prod.fst).Nodup := by
  have hnumbers : ((ls.zipIdx 1).map fun e => (e.2 : Int)).Nodup := by
    have hrange : ((ls.zipIdx 1).map Prod.snd).Nodup := by
      rw [List.zipIdx_map_snd]
      exact List.nodup_range'
    have hcast := hrange.map (fun a b hab => Int.ofNat.inj hab : Function.Injective Int.ofNat)
    rw [List.map_map] at hcast
    exact hcast
  have hkeys : (entries openers ls).map Prod.fst =
      ((ls.zipIdx 1).filter (carries openers ls)).map fun e => (e.2 : Int) := by
    unfold entries
    rw [List.map_map]
    rfl
  rw [hkeys]
  exact hnumbers.sublist (List.filter_sublist.map _)

/-- The table of a text. -/
def table (content : List Char) : Table where
  entries := entries openers (pieces content)
  nodup := nodup_entries openers (pieces content)

end Lines

/-! ### Lines and pragmas -/

theorem lines_eq_pieces (content : List Char) : Text.lines content = pieces content := by
  induction content with
  | nil => rfl
  | cons c rest ih =>
    -- a cut has a first piece, to which a character that is no LF is added
    obtain ⟨s, ss, hs⟩ := List.exists_cons_of_ne_nil (List.splitOn_ne_nil '\n' rest)
    rw [pieces, hs] at ih
    rw [pieces, List.splitOn_cons_eq_if_modifyHead, hs]
    by_cases hc : c = '\n'
    · rw [hc, Text.lines_newline_cons, ih]
      simp only [beq_self_eq_true, if_true]
      rw [List.getLast?_cons_cons, List.dropLast_cons_cons]
      split <;> rfl
    · have hb : ¬(c == '\n') = true := by simpa using hc
      rw [Text.lines, if_neg hc, ih, if_neg hb, List.modifyHead_cons]
      cases ss with
      | nil => cases s <;> simp
      | cons s' ss =>
        rw [List.getLast?_cons_cons, List.getLast?_cons_cons]
        by_cases hlast : (s' :: ss).getLast? = some []
        · simp [hlast]
        · simp [hlast]

theorem codes_concat (ds : List Declaration) (d : Declaration) :
    codes (ds ++ [d]) = if d.code ∈ codes ds then codes ds else codes ds ++ [d.code] := by
  rw [codes, codes, List.map_append, List.map_singleton, Dict.eraseDups_concat]
  simp only [List.mem_eraseDups]

theorem lastIssues_concat (ds : List Declaration) (d : Declaration) (c : String) :
    lastIssues (ds ++ [d]) c = if c = d.code then d.issues else lastIssues ds c := by
  unfold lastIssues
  rw [List.filter_append]
  by_cases h : c = d.code
  · simp [h]
  · have h' : ¬d.code = c := fun hc => h hc.symm
    simp [h, h']

theorem summary_concat (ds : List Declaration) (d : Declaration) :
    summary (ds ++ [d]) = (summary ds).declare d := by
  -- one more declaration changes the value of its own code only, whether it was there or not
  have hput := Dict.put_map (fun c => (⟨lastIssues ds c, false⟩ : Expectation)) d.code
    ⟨d.issues, false⟩ (nodup_codes ds)
  have hvalue : (fun c => (c, (⟨lastIssues (ds ++ [d]) c, false⟩ : Expectation))) = fun c =>
      (c, Function.update (fun c => (⟨lastIssues ds c, false⟩ : Expectation)) d.code
        ⟨d.issues, false⟩ c) := by
    funext c
    rw [lastIssues_concat, Function.update_apply]
    split <;> rfl
  have hentries : (summary (ds ++ [d])).expectations.entries =
      ((summary ds).declare d).expectations.entries := by
    show (codes (ds ++ [d])).map _ = Dict.put _ _ _
    rw [codes_concat, hvalue]
    exact hput.symm
  exact congrArg Pragma.mk (Dict.ext_entries hentries)

/-- Declaring one after the other gives each code its first place and its last issues. -/
theorem ofDeclarations_eq_summary (ds : List Declaration) :
    Pragma.ofDeclarations ds = summary ds := by
  induction ds using List.reverseRecOn with
  | nil => rfl
  | append_singleton ds d ih =>
    rw [summary_concat, ← ih]
    exact List.foldl_concat ..

/-! ### The walk and its invariant -/

section Walk

variable (openers : List String)

/-- A line with what is read from its comment. -/
def readLine (l : List Char) : ReadLine := ⟨(Line.classify openers l).kind, declaredIn openers l⟩

theorem waiting_concat (ls : List (List Char)) (l : List Char) :
    waiting openers (ls ++ [l]) =
      if isComment openers l then waiting openers ls ++ declaredIn openers l else [] := by
  unfold waiting
  rw [List.rtakeWhile_concat]
  split
  · rw [List.flatMap_append, List.flatMap_singleton]
  · rfl

/-- The comment of a line declares something only if there is one. -/
theorem own_eq {l : List Char} (h : isComment openers l = false) :
    own openers l = declaredIn openers l := by
  unfold own declaredIn
  cases hl : Line.classify openers l with
  | code =>
    simp [Line.kind, Line.comment, Declaration.ofComment_nil, Except.toOption]
  | codeWithComment o text => rfl
  | commentOnly o text => simp [isComment, hl, Line.kind] at h

/-- Behind the lines `pre`, a line with code takes what waits there and then what it declares. -/
theorem declarationsAt_append (pre ls : List (List Char)) {l : List Char}
    (h : isComment openers l = false) :
    declarationsAt openers (pre ++ l :: ls) (l, pre.length + 1) =
      waiting openers pre ++ declaredIn openers l := by
  show waiting openers ((pre ++ l :: ls).take (pre.length + 1 - 1)) ++ own openers l = _
  rw [Nat.add_sub_cancel, List.take_left, own_eq openers h]

/-- Behind the lines `pre`, a line belongs into the table if it is not only a comment, and there or
in it something is declared. -/
theorem carries_append (pre ls : List (List Char)) (l : List Char) :
    carries openers (pre ++ l :: ls) (l, pre.length + 1) =
      (!isComment openers l &&
        decide (waiting openers pre ++ declaredIn openers l ≠ [])) := by
  unfold carries
  cases hc : isComment openers l with
  | true => rfl
  | false => rw [declarationsAt_append openers pre ls hc]

/-- Walking on from the lines `pre`, with the declarations that wait behind them, each of the lines
`ls` gets what looking back from it finds. -/
theorem attachments_readLine (pre ls : List (List Char)) :
    Scan.attachments (pre.length + 1) (waiting openers pre) (ls.map (readLine openers)) =
      ((ls.zipIdx (pre.length + 1)).filter (carries openers (pre ++ ls))).map
        fun e => (e.2, declarationsAt openers (pre ++ ls) e) := by
  induction ls generalizing pre with
  | nil => rfl
  | cons l ls ih =>
    -- the line joins the part that is already walked
    have hnext := ih (pre ++ [l])
    rw [List.append_assoc, List.singleton_append, List.length_append, List.length_singleton] at hnext
    have hwait := waiting_concat openers pre l
    rw [List.map_cons, List.zipIdx_cons, Scan.attachments]
    cases hc : isComment openers l with
    | true =>
      -- a comment takes nothing, and what it declares waits
      have hnot : carries openers (pre ++ l :: ls) (l, pre.length + 1) = false := by
        rw [carries_append, hc]
        rfl
      have hread : (readLine openers l).isComment = true := hc
      rw [if_pos hc] at hwait
      rw [List.filter_cons_of_neg (by simp [hnot]), ← hnext, hwait, if_pos hread]
      rfl
    | false =>
      have hread : (readLine openers l).isComment ≠ true := by
        intro h
        exact absurd (hc.symm.trans h) (by decide)
      -- a line of code takes all that waits, so that nothing waits behind it
      have hat : declarationsAt openers (pre ++ l :: ls) (l, pre.length + 1) =
          waiting openers pre ++ (readLine openers l).declarations :=
        declarationsAt_append openers pre ls hc
      have hcarries : carries openers (pre ++ l :: ls) (l, pre.length + 1) =
          decide (waiting openers pre ++ (readLine openers l).declarations ≠ []) := by
        rw [carries_append, hc]
        rfl
      rw [if_neg (by simp [hc])] at hwait
      rw [hwait] at hnext
      rw [if_neg hread]
      -- both sides leave the line out if nothing is declared for it
      by_cases hds : waiting openers pre ++ (readLine openers l).declarations = []
      · rw [if_pos hds, List.filter_cons_of_neg (by rw [hcarries]; simpa using hds), hnext]
      · rw [if_neg hds, List.filter_cons_of_pos (by rw [hcarries]; exact decide_eq_true hds),
          List.map_cons, hat, hnext]

/-- Every declaration goes to one line, or to none when it waits behind the last line of code. -/
theorem flatMap_declarationsAt (pre ls : List (List Char)) :
    (((ls.zipIdx (pre.length + 1)).filter fun e => !isComment openers e.1).flatMap
        (declarationsAt openers (pre ++ ls))) ++ waiting openers (pre ++ ls) =
      waiting openers pre ++ ls.flatMap (declaredIn openers) := by
  induction ls generalizing pre with
  | nil => simp
  | cons l ls ih =>
    have hnext := ih (pre ++ [l])
    rw [List.append_assoc, List.singleton_append, List.length_append, List.length_singleton,
      waiting_concat] at hnext
    rw [List.zipIdx_cons, List.flatMap_cons]
    cases hc : isComment openers l with
    | true =>
      rw [hc, if_pos rfl, List.append_assoc] at hnext
      rw [List.filter_cons_of_neg (by simp [hc]), hnext]
    | false =>
      rw [hc, if_neg (by decide), List.nil_append] at hnext
      rw [List.filter_cons_of_pos (by simp [hc]), List.flatMap_cons,
        declarationsAt_append openers pre ls hc, List.append_assoc, hnext, List.append_assoc]

end Walk

end LookBack

/-! ### The table of a scan -/

open LookBack Text.Numeral

theorem Scan.tableOf_readLine (openers : List String) (content : List Char) :
    tableOf ((pieces content).map (readLine openers)) = table openers content := by
  have hwalk := attachments_readLine openers [] (pieces content)
  have hentries : (attachments 1 [] ((pieces content).map (readLine openers))).map
      (fun a => ((a.1 : Int), Pragma.ofDeclarations a.2)) = entries openers (pieces content) := by
    rw [show attachments 1 [] ((pieces content).map (readLine openers)) = _ from hwalk, List.map_map]
    refine List.map_congr_left fun e _ => ?_
    rw [Function.comp_apply, ofDeclarations_eq_summary]
    rfl
  -- the numbers of the lines are distinct, so the entries are the table
  refine Dict.ext_entries ?_
  rw [tableOf, hentries]
  exact Dict.entries_ofList (nodup_entries openers (pieces content))

theorem Scan.readLines_eq {openers : List String} {content : List Char}
    (h : ∀ ds ∈ Scan.numerals openers content, ds.length ≤ limit) :
    readLines openers content = (pieces content).map (readLine openers) := by
  unfold readLines
  rw [← lines_eq_pieces]
  refine List.map_congr_left fun l hl => ?_
  have hshort : ∀ ds ∈ Declaration.numerals (Line.classify openers l).comment,
      ds.length ≤ limit := fun ds hds => h ds (List.mem_flatMap.mpr ⟨l, hl, hds⟩)
  have hread : Declaration.ofComment (Line.classify openers l).comment =
      .ok (Declaration.declared (Line.classify openers l).comment) := by
    rw [Declaration.ofComment_eq]
    exact unlessTooLong_eq_ok_iff.mpr ⟨hshort, rfl⟩
  unfold ReadLine.seen readLine declaredIn
  rw [hread]
  rfl

theorem scan_eq_ok_table {openers : List String} {content : List Char}
    (h : ∀ ds ∈ Scan.numerals openers content, ds.length ≤ limit) :
    scan openers content = .ok (table openers content) := by
  rw [scan_eq_ok h, Scan.readLines_eq h, Scan.tableOf_readLine]

/-- If no column is too long, a scan gives the table that looking back from each line gives. All
that the comments of a text declare is handed out once and in order: to the lines that are not only
comments, and what is left is declared in the comments that end the text. -/
theorem scan_eq_table (openers : List String) (content : List Char)
    (h : ∀ ds ∈ Scan.numerals openers content, ds.length ≤ limit) :
    scan openers content = .ok (table openers content) ∧
      (((pieces content).zipIdx 1).filter fun e => !isComment openers e.1).flatMap
          (declarationsAt openers (pieces content)) ++
        ((pieces content).rtakeWhile (isComment openers)).flatMap (declaredIn openers) =
      (pieces content).flatMap (declaredIn openers) :=
  ⟨scan_eq_ok_table h, flatMap_declarationsAt openers [] (pieces content)⟩

/-- A code declared twice above a line, a trailing comment that declares nothing, an empty line and
a comment at the end. -/
def LookBack.mixedLines : List Char :=
  "# [A]: 1, [B]\n # [A]: 2 \"m\"\nx # [C]\n# [D]\ny # none\n# [E]\n\n# [F]\n".toList

theorem scan_eq_table_mixedLines :
    (∀ ds ∈ Scan.numerals ["#"] mixedLines, ds.length ≤ limit) ∧
      scan ["#"] mixedLines = .ok (table ["#"] mixedLines) ∧
      (table ["#"] mixedLines).entries.map (fun e => (e.1, e.2.codes)) =
        [(3, ["A", "B", "C"]), (5, ["D"]), (7, ["E"])] := by
  have hshort : ∀ ds ∈ Scan.numerals ["#"] mixedLines, ds.length ≤ limit := by decide +kernel
  exact ⟨hshort, (scan_eq_table ["#"] mixedLines hshort).1, by decide +kernel⟩

end FixturePragmas
