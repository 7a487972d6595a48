import FixturePragmas.Log.Logger
import FixturePragmas.Proofs.Scan.LookBack
import FixturePragmas.Proofs.Scan.Notes

/-!
# What a scan writes into the log

The notes of a scan are told line by line from its table: the kind of the line, the declarations in
its comment, and, if the table has the line, that they were attached, with the codes it has there;
and at the end what was dropped. Walking down the lines, the invariant is that the waiting
declarations are those of the comments that end the part already walked (`notesFrom_readLine`); what
is noted about a line then is what looking back from it finds (`get?_table`). All that was read is
accounted for: the declarations that are attached and those that are dropped are, in order, the ones
that were read.
-/

namespace FixturePragmas

open LookBack

/-! ### Entries of the log -/

/-- A note as it is logged: its level, the part of the program it comes from, and its wording. -/
structure Log.Entry where
  level : Log.Level
  source : String
  text : String
  deriving DecidableEq, Repr

/-- The entry for a note. -/
def Log.Note.entry (n : Log.Note) : Log.Entry := ⟨n.level, n.source, n.text⟩

theorem Log.map_entry_notesFrom (l : Log.Level) (ns : List Log.Note) :
    (Log.notesFrom l ns).map Note.entry =
      (ns.map Note.entry).filter fun e => decide (l ≤ e.level) := by
  rw [List.filter_map]
  rfl

/-- Elements that give nothing may be left out. -/
theorem flatMap_filter_of_eq_nil {α β : Type} {p : α → Bool} {f : α → List β} {xs : List α}
    (h : ∀ x, p x = false → f x = []) : (xs.filter p).flatMap f = xs.flatMap f := by
  induction xs with
  | nil => rfl
  | cons x xs ih =>
    cases hx : p x with
    | true => rw [List.filter_cons_of_pos hx, List.flatMap_cons, List.flatMap_cons, ih]
    | false =>
      rw [List.filter_cons_of_neg (by simp [hx]), List.flatMap_cons, h x hx, List.nil_append, ih]

/-- A logger shows of some notes what it shows of those from its level on. -/
theorem Log.Logger.flatMap_lines (g : Log.Logger) (ns : List Log.Note) :
    (ns.flatMap fun n => g.lines n.record) =
      (Log.notesFrom g.level ns).flatMap fun n => g.lines n.record := by
  refine (flatMap_filter_of_eq_nil fun n hn => ?_).symm
  -- below its level a logger lets nothing through, so it shows nothing
  have hlets : g.lets n.record.level = false :=
    decide_eq_false fun h => of_decide_eq_false hn h.2
  rw [Log.Logger.lines, hlets, if_neg Bool.false_ne_true]

namespace LookBack

/-- The entry that the line with the number `i` is of a kind. -/
def lineEntry (i : Nat) (k : LineKind) : Log.Entry :=
  ⟨Log.Level.trace, "pragmascan.pragma.scanner", s!"Line {i}: {k.name}"⟩

/-- The entry that a declaration was read. -/
def declarationEntry (d : Declaration) : Log.Entry :=
  ⟨Log.Level.trace, "pragmascan.pragma.grammar",
    s!"Parsed pragma {d.code} with {d.issues.length} issue(s)"⟩

/-- The entry that the line with the number `i` now has a pragma. -/
def attachedEntry (i : Nat) (p : Pragma) : Log.Entry :=
  ⟨Log.Level.debug, "pragmascan.pragma.scanner",
    s!"Line {i}: attached " ++ ", ".intercalate p.codes⟩

/-- The entry that declarations were dropped, if there are any. -/
def droppedEntries (ds : List Declaration) : List Log.Entry :=
  if ds = [] then []
  else [⟨Log.Level.debug, "pragmascan.pragma.scanner",
    s!"Dropping {ds.length} pragma(s) after the last code line: "
      ++ ", ".intercalate (ds.map (·.code))⟩]

theorem entry_lineRead (i : Nat) (k : LineKind) :
    (Log.Note.lineRead i k).entry = lineEntry i k := rfl

theorem entry_declarationNote (d : Declaration) :
    (Scan.declarationNote d).entry = declarationEntry d := rfl

theorem entry_attached (i : Nat) (p : Pragma) :
    (Log.Note.attached i p.codes).entry = attachedEntry i p := rfl

theorem entries_notesFrom_nil (n : Nat) (ds : List Declaration) :
    (Scan.notesFrom n ds []).map Log.Note.entry = droppedEntries ds := by
  rw [Scan.notesFrom, droppedEntries]
  split
  · rfl
  · rw [← List.length_map fun d : Declaration => d.code]
    rfl

section Lines

variable (openers : List String)

/-- The entries about a line with its number, by the table of the text. -/
def entriesAbout (t : Table) (e : List Char × Nat) : List Log.Entry :=
  lineEntry e.2 (Line.classify openers e.1).kind ::
    (declaredIn openers e.1).map declarationEntry ++
      ((t.get? e.2).map (attachedEntry e.2)).toList

/-- All entries about a text, by its table. -/
def log (content : List Char) (t : Table) : List Log.Entry :=
  ((pieces content).zipIdx 1).flatMap (entriesAbout openers t) ++
    droppedEntries (waiting openers (pieces content))

/-! ### The walk -/

/-- The notes about a line with its number among the lines `ls`. -/
def notesAbout (ls : List (List Char)) (e : List Char × Nat) : List Log.Note :=
  .lineRead e.2 (Line.classify openers e.1).kind ::
    (declaredIn openers e.1).map Scan.declarationNote ++
      if carries openers ls e then
        [.attached e.2 (Pragma.ofDeclarations (declarationsAt openers ls e)).codes]
      else []

/-- Walking on from the lines `pre`, with the declarations that wait behind them, what is noted about
each of the lines `ls` is what looking back from it finds. -/
theorem notesFrom_readLine (pre ls : List (List Char)) :
    Scan.notesFrom (pre.length + 1) (waiting openers pre) (ls.map (readLine openers)) =
      (ls.zipIdx (pre.length + 1)).flatMap (notesAbout openers (pre ++ ls)) ++
        Scan.notesFrom 0 (waiting openers (pre ++ ls)) [] := by
  induction ls generalizing pre with
  | nil =>
    rw [List.append_nil]
    rfl
  | cons l ls ih =>
    -- as for the table: the line joins the part that is walked, with what waits behind it
    have hnext := ih (pre ++ [l])
    rw [List.append_assoc, List.singleton_append, List.length_append, List.length_singleton,
      waiting_concat] at hnext
    have hcarries := carries_append openers pre ls l
    rw [List.map_cons, List.zipIdx_cons, List.flatMap_cons, List.append_assoc, ← hnext, notesAbout,
      hcarries]
    cases hc : isComment openers l with
    | true =>
      have hread : (readLine openers l).isComment = true := hc
      rw [Scan.notesFrom, if_pos hread]
      simp [readLine]
    | false =>
      have hread : (readLine openers l).isComment ≠ true := by
        intro h
        exact absurd (hc.symm.trans h) (by decide)
      rw [Scan.notesFrom, if_neg hread, declarationsAt_append openers pre ls hc]
      -- a line of code is noted as attached only if something is declared for it
      by_cases hds : waiting openers pre ++ declaredIn openers l = []
      · have hds' : waiting openers pre ++ (readLine openers l).declarations = [] := hds
        rw [if_pos hds']
        simp [readLine, hds]
      · have hds' : waiting openers pre ++ (readLine openers l).declarations ≠ [] := hds
        rw [if_neg hds']
        simp [readLine, hds]

end Lines

/-! ### The table -/

/-- The lines with their numbers that the table has. -/
def attachedLines (openers : List String) (content : List Char) : List (List Char × Nat) :=
  ((pieces content).zipIdx 1).filter (carries openers (pieces content))

theorem get?_table_eq_some_iff {openers : List String} {content : List Char} {n : Int}
    {p : Pragma} :
    (table openers content).get? n = some p ↔
      ∃ e ∈ attachedLines openers content,
        n = e.2 ∧ p = Pragma.ofDeclarations (declarationsAt openers (pieces content) e) := by
  have hentry : (n, p) ∈ (table openers content).entries ↔
      ∃ e ∈ attachedLines openers content,
        ((e.2 : Int), summary (declarationsAt openers (pieces content) e)) = (n, p) :=
    List.mem_map
  rw [Dict.get?_eq_some_iff, hentry]
  refine exists_congr fun e => and_congr_right fun _ => ?_
  rw [Prod.mk.injEq, ofDeclarations_eq_summary]
  exact and_congr eq_comm eq_comm

/-- No two lines of a text have the same number. -/
theorem eq_of_mem_zipIdx {ls : List (List Char)} {e e' : List Char × Nat} (he : e ∈ ls.zipIdx 1)
    (he' : e' ∈ ls.zipIdx 1) (h : e.2 = e'.2) : e = e' := by
  have hline := (List.mem_zipIdx_iff_le_and_getElem?_sub.mp he).2
  have hline' := (List.mem_zipIdx_iff_le_and_getElem?_sub.mp he').2
  rw [h, hline'] at hline
  exact Prod.ext (Option.some.inj hline).symm h

/-- What the table has for a line of the text. -/
theorem get?_table (openers : List String) (content : List Char) {e : List Char × Nat}
    (he : e ∈ (pieces content).zipIdx 1) :
    (table openers content).get? e.2 =
      if carries openers (pieces content) e then
        some (Pragma.ofDeclarations (declarationsAt openers (pieces content) e))
      else none := by
  split
  · next hcarries =>
    exact get?_table_eq_some_iff.mpr ⟨e, List.mem_filter.mpr ⟨he, hcarries⟩, rfl, rfl⟩
  · next hcarries =>
    rw [Option.eq_none_iff_forall_ne_some]
    intro p hp
    obtain ⟨e', he', hnumber, -⟩ := get?_table_eq_some_iff.mp hp
    obtain ⟨hmem, hcarries'⟩ := List.mem_filter.mp he'
    exact hcarries (eq_of_mem_zipIdx he hmem (Int.ofNat.inj hnumber) ▸ hcarries')

/-- All that is declared in a text goes, once and in order, to the lines that the table has, and
what is left waits behind the last line of code. -/
theorem flatMap_attachedLines_append_waiting (openers : List String) (content : List Char) :
    (attachedLines openers content).flatMap (declarationsAt openers (pieces content)) ++
        waiting openers (pieces content) =
      (pieces content).flatMap (declaredIn openers) := by
  have hsplit : attachedLines openers content =
      (((pieces content).zipIdx 1).filter fun e => !isComment openers e.1).filter
        fun e => decide (declarationsAt openers (pieces content) e ≠ []) := by
    rw [List.filter_filter]
    exact List.filter_congr fun e _ => Bool.and_comm _ _
  rw [hsplit, flatMap_filter_of_eq_nil fun e he => by simpa using he]
  exact flatMap_declarationsAt openers [] (pieces content)

/-! ### The log of a scan -/

theorem entries_notesAbout {openers : List String} {content : List Char} {e : List Char × Nat}
    (he : e ∈ (pieces content).zipIdx 1) :
    (notesAbout openers (pieces content) e).map Log.Note.entry =
      entriesAbout openers (table openers content) e := by
  have hread : ((declaredIn openers e.1).map Scan.declarationNote).map Log.Note.entry =
      (declaredIn openers e.1).map declarationEntry := by
    rw [List.map_map]
    exact List.map_congr_left fun d _ => entry_declarationNote d
  rw [entriesAbout, get?_table openers content he, notesAbout, List.map_append, List.map_cons,
    entry_lineRead, hread]
  split
  · rw [List.map_singleton, entry_attached]
    rfl
  · rfl

/-- The notes on the lines of a text, as they are logged. -/
theorem entries_notes (openers : List String) (content : List Char) :
    (Scan.notes ((pieces content).map (readLine openers))).map Log.Note.entry =
      log openers content (table openers content) := by
  have hwalk := notesFrom_readLine openers [] (pieces content)
  rw [List.nil_append] at hwalk
  rw [show Scan.notes _ = _ from hwalk, List.map_append, List.map_flatMap, entries_notesFrom_nil,
    log]
  exact congrArg (· ++ _) (List.flatMap_congr fun e he => entries_notesAbout he)

theorem trace_le_of_mem_log {openers : List String} {content : List Char} {t : Table}
    {e : Log.Entry} (h : e ∈ log openers content t) : Log.Level.trace ≤ e.level := by
  rcases List.mem_append.mp h with hline | hdropped
  · obtain ⟨l, -, hl⟩ := List.mem_flatMap.mp hline
    rcases List.mem_append.mp hl with hread | hattached
    · rcases List.mem_cons.mp hread with rfl | hdeclaration
      · exact le_refl _
      · obtain ⟨d, -, rfl⟩ := List.mem_map.mp hdeclaration
        exact le_refl _
    · obtain ⟨p, -, rfl⟩ := Option.map_eq_some_iff.mp (Option.mem_toList.mp hattached)
      exact show Log.Level.trace ≤ Log.Level.debug by decide
  · rw [droppedEntries] at hdropped
    split at hdropped
    · exact absurd hdropped List.not_mem_nil
    · obtain rfl := List.mem_singleton.mp hdropped
      exact show Log.Level.trace ≤ Log.Level.debug by decide

end LookBack

/-- Where a scan gives a table, it gives the one of looking back, and its notes are those on the
lines as they are read. -/
theorem scanWithNotes_of_scan_eq_ok {openers : List String} {content : List Char} {t : Table}
    (h : scan openers content = .ok t) :
    t = table openers content ∧
      (scanWithNotes openers content).entries =
        Scan.notes ((pieces content).map (readLine openers)) := by
  rw [scan_eq] at h
  obtain ⟨hshort, -⟩ := Text.Numeral.unlessTooLong_eq_ok_iff.mp h
  have hread : ReadLine.ofText openers content =
      .ok ((pieces content).map (readLine openers)) := by
    rw [ReadLine.ofText_eq, ← Scan.readLines_eq hshort]
    exact Text.Numeral.unlessTooLong_eq_ok_iff.mpr ⟨hshort, rfl⟩
  constructor
  · rw [← scan_eq] at h
    exact Except.ok.inj (h.symm.trans (scan_eq_ok_table hshort))
  · exact entries_scanWithNotes hread

/-- The log of a scan accounts for all lines and all declarations. From the lowest level on it is
the log that the table tells, from a higher one the part of it from that level on, and a logger shows
just that part. The table has the lines for which something is declared; their declarations and
those that are dropped are, in order, all that was read. -/
theorem scan_log_accounts {openers : List String} {content : List Char} {t : Table}
    (h : scan openers content = .ok t) :
    let notes := (scanWithNotes openers content).entries
    (Log.notesFrom Log.Level.trace notes).map Log.Note.entry = log openers content t ∧
      (∀ l, (Log.notesFrom l notes).map Log.Note.entry =
        (log openers content t).filter fun e => decide (l ≤ e.level)) ∧
      (∀ g : Log.Logger, (notes.flatMap fun n => g.lines n.record) =
        (Log.notesFrom g.level notes).flatMap fun n => g.lines n.record) ∧
      (∀ n p, t.get? n = some p ↔ ∃ e ∈ attachedLines openers content,
        n = e.2 ∧ p = Pragma.ofDeclarations (declarationsAt openers (pieces content) e)) ∧
      (attachedLines openers content).flatMap (declarationsAt openers (pieces content)) ++
          waiting openers (pieces content) =
        (pieces content).flatMap (declaredIn openers) := by
  obtain ⟨rfl, hnotes⟩ := scanWithNotes_of_scan_eq_ok h
  have hlog : (scanWithNotes openers content).entries.map Log.Note.entry =
      log openers content (table openers content) := by
    rw [hnotes, entries_notes]
  have hfrom : ∀ l, (Log.notesFrom l (scanWithNotes openers content).entries).map Log.Note.entry =
      (log openers content (table openers content)).filter fun e => decide (l ≤ e.level) :=
    fun l => by rw [Log.map_entry_notesFrom, hlog]
  refine ⟨?_, hfrom, fun g => g.flatMap_lines _, fun n p => get?_table_eq_some_iff,
    flatMap_attachedLines_append_waiting openers content⟩
  rw [hfrom, List.filter_eq_self]
  exact fun e he => decide_eq_true (trace_le_of_mem_log he)

/-- A text in which declarations wait, are made twice and are dropped. -/
theorem scan_log_accounts_mixedLines :
    scan ["#"] mixedLines = .ok (table ["#"] mixedLines) ∧
      ((Log.notesFrom Log.Level.trace (scanWithNotes ["#"] mixedLines).entries).map fun n =>
          n.entry) = log ["#"] mixedLines (table ["#"] mixedLines) ∧
      (((log ["#"] mixedLines (table ["#"] mixedLines)).filter fun e =>
          decide (Log.Level.debug ≤ e.level)).map fun e => e.text) =
        ["Line 3: attached A, B, C", "Line 5: attached D", "Line 7: attached E",
         "Dropping 1 pragma(s) after the last code line: F"] := by
  have hshort : ∀ ds ∈ Scan.numerals ["#"] mixedLines, ds.length ≤ Text.Numeral.limit := by
    decide +kernel
  have hscan := scan_eq_ok_table hshort
  exact ⟨hscan, (scan_log_accounts hscan).1, by decide +kernel⟩

end FixturePragmas
