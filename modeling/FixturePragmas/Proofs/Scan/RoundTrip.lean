import FixturePragmas.Proofs.Scan.Regular
import Mathlib.Data.List.Sort

/-!
# Printing a table and scanning it back

A table is written as a fixture: one line of code for each of its lines, with the pragma printed
behind an opener, and empty lines between them (`Table.fixture`). A scan of this fixture under this
one opener gives the table again (`scan_fixture`), because no line of it is only a comment, so that
nothing waits and each line takes what stands in it (`Scan.attachments_numbered`).
-/

namespace FixturePragmas

/-! ### The fixture -/

namespace Table

/-- The number of the last line in the table, zero if there is none. -/
def lastLine (t : Table) : Nat := (t.keys.max?.getD 0).toNat

/-- Line `n` of the fixture: `code`, the opener, a blank and the pragma of the line; or nothing. -/
def fixtureLine (code : List Char) (opener : String) (t : Table) (n : Nat) : List Char :=
  match t.get? n with
  | some p => code ++ (opener.toList ++ ' ' :: p.render)
  | none => []

/-- The fixture that shows the table, each of its lines ended by LF. -/
def fixture (code : List Char) (opener : String) (t : Table) : List Char :=
  Text.unlines ((List.range' 1 t.lastLine).map (fixtureLine code opener t))

/-- What a scan reads in line `n` of the fixture. -/
def fixtureRead (t : Table) (n : Nat) : ReadLine :=
  match t.get? n with
  | some p => ⟨.codeWithComment, p.declarations⟩
  | none => ⟨.code, []⟩

theorem le_lastLine {t : Table} {k : Int} (h : k ∈ t.keys) : k ≤ t.lastLine := by
  obtain ⟨m, hm⟩ := Option.isSome_iff_exists.mp (List.isSome_max?_of_mem h)
  have hle : k ≤ m := (List.max?_eq_some_iff.mp hm).2 k h
  have hlast : t.lastLine = m.toNat := by rw [lastLine, hm, Option.getD_some]
  omega

end Table

/-! ### Nothing waits -/

/-- Among lines that are numbered from `a` and not only comments, each takes what it declares. -/
theorem Scan.attachments_numbered {line : Nat → ReadLine}
    (hcode : ∀ n, (line n).isComment = false) (a k : Nat) :
    attachments a [] ((List.range' a k).map line) =
      ((List.range' a k).filter fun n => decide ((line n).declarations ≠ [])).map
        fun n => (n, (line n).declarations) := by
  induction k generalizing a with
  | zero => rfl
  | succ k ih =>
    rw [List.range'_succ, List.map_cons, attachments, List.nil_append, if_neg (by simp [hcode a])]
    by_cases hds : (line a).declarations = []
    · rw [if_pos hds, List.filter_cons_of_neg (by simpa using hds)]
      exact ih (a + 1)
    · rw [if_neg hds, List.filter_cons_of_pos (by simpa using hds), List.map_cons, ih (a + 1)]

namespace Table

variable {code : List Char} {opener : String} {t : Table}

theorem isComment_fixtureRead (t : Table) (n : Nat) : (t.fixtureRead n).isComment = false := by
  unfold fixtureRead
  split <;> rfl

/-- The numbers of the lines in which the fixture declares something, in increasing order. -/
def declaringLines (t : Table) : List Nat :=
  (List.range' 1 t.lastLine).filter fun n => decide ((t.fixtureRead n).declarations ≠ [])

/-- The entry of a scan for line `n` of the fixture. -/
def fixtureEntry (t : Table) (n : Nat) : Int × Pragma :=
  ((n : Int), Pragma.ofDeclarations (t.fixtureRead n).declarations)

theorem Regular.mem_entries_iff (h : t.Regular) (e : Int × Pragma) :
    e ∈ t.declaringLines.map t.fixtureEntry ↔ e ∈ t.entries := by
  constructor
  · intro he
    obtain ⟨n, hn, rfl⟩ := List.mem_map.mp he
    have hds := of_decide_eq_true (List.mem_filter.mp hn).2
    unfold fixtureEntry
    unfold fixtureRead at hds ⊢
    cases hget : t.get? n with
    | none =>
      rw [hget] at hds
      exact absurd rfl hds
    | some p =>
      have hmem := (t.get?_eq_some_iff _ _).mp hget
      -- no code is hit, so the pragma is the one of its declarations
      show ((n : Int), Pragma.ofDeclarations p.declarations) ∈ t.entries
      rw [Pragma.ofDeclarations_declarations (h.unhit _ hmem)]
      exact hmem
  · intro he
    obtain ⟨k, p⟩ := e
    have hpos : 1 ≤ k := h.numbered _ he
    obtain ⟨n, rfl⟩ := Int.eq_ofNat_of_zero_le (by omega : 0 ≤ k)
    have hle := le_lastLine (List.mem_map_of_mem he)
    have hread : t.fixtureRead n = ⟨.codeWithComment, p.declarations⟩ := by
      rw [fixtureRead, (t.get?_eq_some_iff _ _).mpr he]
    refine List.mem_map.mpr ⟨n, List.mem_filter.mpr ⟨?_, ?_⟩, ?_⟩
    · rw [List.mem_range'_1]
      omega
    · rw [hread]
      exact decide_eq_true (h.declares _ he)
    · rw [fixtureEntry, hread, Pragma.ofDeclarations_declarations (h.unhit _ he)]

/-- Both lists stand in increasing order of the lines, so with the same members they are equal. -/
theorem Regular.entries_eq (h : t.Regular) : t.declaringLines.map t.fixtureEntry = t.entries := by
  let before : Int × Pragma → Int × Pragma → Prop := fun a b => a.1 < b.1
  have hirrefl : Std.Irrefl before := ⟨fun a => Int.lt_irrefl a.1⟩
  have hantisymm : Std.Antisymm before := ⟨fun a b hab hba => absurd hba (Int.lt_asymm hab)⟩
  have hnumbers : t.declaringLines.Pairwise (· < ·) := List.Pairwise.filter _ List.pairwise_lt_range'
  have hordered : (t.declaringLines.map t.fixtureEntry).Pairwise before :=
    List.pairwise_map.mpr (hnumbers.imp fun hab => Int.ofNat_lt.mpr hab)
  exact List.Pairwise.eq_of_mem_iff hordered h.ordered h.mem_entries_iff

/-- The table of the lines that are read in the fixture. -/
theorem Regular.tableOf_fixtureRead (h : t.Regular) :
    Scan.tableOf ((List.range' 1 t.lastLine).map t.fixtureRead) = t := by
  have hattached : (Scan.attachments 1 [] ((List.range' 1 t.lastLine).map t.fixtureRead)).map
      (fun a => ((a.1 : Int), Pragma.ofDeclarations a.2)) = t.declaringLines.map t.fixtureEntry := by
    rw [Scan.attachments_numbered (isComment_fixtureRead t), List.map_map]
    rfl
  refine Dict.ext_entries ?_
  rw [Scan.tableOf, hattached, h.entries_eq]
  exact Dict.entries_ofList t.nodup

/-! ### The lines of the fixture -/

/-- A line of the fixture stays one line. -/
theorem Regular.newline_not_mem_fixtureLine (h : t.Regular) (hcode : '\n' ∉ code)
    (hopener : '\n' ∉ opener.toList) (n : Nat) : '\n' ∉ fixtureLine code opener t n := by
  unfold fixtureLine
  split
  · next p hget =>
    have hmem := (t.get?_eq_some_iff _ _).mp hget
    have hrender : '\n' ∉ p.render :=
      Declaration.newline_not_mem_renderAll (h.writable _ hmem) (h.oneLine _ hmem)
    simp [hcode, hopener, hrender]
  · exact List.not_mem_nil

/-- A line of the fixture reads as it is meant. -/
theorem Regular.ofLine_fixtureLine (h : t.Regular) (hne : opener ≠ "")
    (hcode : ∃ c ∈ code, Text.isBlank c = false)
    (hfirst : ∀ k < code.length, ¬ opener.toList <+: (code ++ opener.toList).drop k) (n : Nat) :
    ReadLine.ofLine [opener] (fixtureLine code opener t n) = .ok (t.fixtureRead n) := by
  unfold fixtureLine fixtureRead
  cases hget : t.get? n with
  | none =>
    show (Declaration.ofComment (Line.classify [opener] []).comment).map _ = _
    rw [Line.classify_nil hne]
    show (Declaration.ofComment []).map _ = _
    rw [Declaration.ofComment_nil]
    rfl
  | some p =>
    have hmem := (t.get?_eq_some_iff _ _).mp hget
    have hread : Declaration.ofComment ([' '] ++ p.render) = .ok p.declarations :=
      Declaration.ofComment_renderAll (by decide) (h.writable _ hmem)
    have hclass := Line.classify_code_opener hne hcode hfirst (' ' :: p.render)
    show (Declaration.ofComment (Line.classify [opener] _).comment).map _ = _
    rw [hclass]
    show (Declaration.ofComment ([' '] ++ p.render)).map _ = _
    rw [hread]
    rfl

theorem Regular.scan_fixture (h : t.Regular) (hne : opener ≠ "")
    (hopener : '\n' ∉ opener.toList) (hcode : ∃ c ∈ code, Text.isBlank c = false)
    (hline : '\n' ∉ code)
    (hfirst : ∀ k < code.length, ¬ opener.toList <+: (code ++ opener.toList).drop k) :
    scan [opener] (t.fixture code opener) = .ok t := by
  have hlines : Text.lines (t.fixture code opener) =
      (List.range' 1 t.lastLine).map (fixtureLine code opener t) := by
    have hlone : ∀ l ∈ (List.range' 1 t.lastLine).map (fixtureLine code opener t), '\n' ∉ l := by
      intro l hl
      obtain ⟨n, -, rfl⟩ := List.mem_map.mp hl
      exact h.newline_not_mem_fixtureLine hline hopener n
    exact Text.lines_unlines hlone
  have hread : ReadLine.ofText [opener] (t.fixture code opener) =
      .ok ((List.range' 1 t.lastLine).map t.fixtureRead) := by
    have hofLine : ReadLine.ofLine [opener] ∘ fixtureLine code opener t =
        fun n => pure (t.fixtureRead n) :=
      funext fun n => h.ofLine_fixtureLine hne hcode hfirst n
    rw [ReadLine.ofText, hlines, List.mapM_map, hofLine]
    exact List.mapM_pure
  rw [scan, hread]
  exact congrArg Except.ok h.tableOf_fixtureRead

end Table

/-- Printing undoes scanning on whole texts: whatever table a scan gives, the fixture written from
it, with any code and under any opener that first occurs right behind this code, has this table, in
which no finding is seen yet. -/
theorem scan_fixture_eq {openers : List String} {content : List Char} {t : Table}
    (h : scan openers content = .ok t) {opener : String} (hne : opener ≠ "")
    (hopener : '\n' ∉ opener.toList) {code : List Char}
    (hcode : ∃ c ∈ code, Text.isBlank c = false) (hline : '\n' ∉ code)
    (hfirst : ∀ k < code.length, ¬ opener.toList <+: (code ++ opener.toList).drop k) :
    scan [opener] (t.fixture code opener) = .ok t ∧ ∀ e ∈ t.entries, e.2.Unhit :=
  have hregular := Table.Regular.of_scan h
  ⟨hregular.scan_fixture hne hopener hcode hline hfirst, hregular.unhit⟩

/-- Declarations for every form of printing: columns with and without messages, neither of them, no
issues, brackets and an opener in a message, a quote in a code, and lines without a pragma. -/
def Table.printedText : List Char :=
  "x # [A]: \"\", 0 \"a]; [b] //\", 07, 12 \"m\"\n\n# [B:\"q]\ny // no\nz # [C]; [A]: \"n\"\n".toList

theorem scan_fixture_eq_printedText :
    scan ["#"] Table.printedText = .ok (LookBack.table ["#"] Table.printedText) ∧
      (LookBack.table ["#"] Table.printedText).fixture "f(); ".toList "//" =
        ("f(); // [A]: \"\", \"a]; [b] //\", 7, 12 \"m\"\n\n\n" ++
          "f(); // [B:\"q]\nf(); // [C]; [A]: \"n\"\n").toList ∧
      scan ["//"] ((LookBack.table ["#"] Table.printedText).fixture "f(); ".toList "//") =
        .ok (LookBack.table ["#"] Table.printedText) := by
  have hshort : ∀ ds ∈ Scan.numerals ["#"] Table.printedText, ds.length ≤ Text.Numeral.limit := by
    decide +kernel
  have hscan := scan_eq_ok_table hshort
  have hfirst : ∀ k < "f(); ".toList.length,
      ¬ "//".toList <+: ("f(); ".toList ++ "//".toList).drop k := by decide
  have hcode : ∃ c ∈ "f(); ".toList, Text.isBlank c = false := ⟨'f', List.mem_cons_self, rfl⟩
  exact ⟨hscan, by decide +kernel,
    (scan_fixture_eq hscan (by decide) (by decide) hcode (by decide) hfirst).1⟩

end FixturePragmas
