import FixturePragmas.Proofs.Declaration.RoundTrip
import FixturePragmas.Proofs.Line
import FixturePragmas.Proofs.Scan.LookBack

/-!
# Tables that come from a scan

What every table of a scan has, whatever the text (`Table.Regular`): its lines are numbered from 1
and stand in increasing order, each of its pragmas declares something, no finding was seen yet, and
all that is declared can be written down on one line.
-/

namespace FixturePragmas

/-! ### Pragmas without hits -/

namespace Pragma

/-- No finding was seen under any code of the pragma. -/
def Unhit (p : Pragma) : Prop := ∀ e ∈ p.expectations.entries, e.2.hit = false

theorem expectations_ofDeclarations (ds : List Declaration) :
    (ofDeclarations ds).expectations =
      Dict.ofList (ds.map fun d => (d.code, (⟨d.issues, false⟩ : Expectation))) := by
  induction ds using List.reverseRecOn with
  | nil => rfl
  | append_singleton ds d ih =>
    have hstep : ofDeclarations (ds ++ [d]) = (ofDeclarations ds).declare d := List.foldl_concat ..
    rw [hstep, declare, ih, List.map_append, Dict.ofList, Dict.ofList, List.map_singleton,
      List.foldl_concat]

/-- Without hits, a pragma is made again from what it declares. -/
theorem ofDeclarations_declarations {p : Pragma} (h : p.Unhit) :
    ofDeclarations p.declarations = p := by
  have hentries : (p.declarations.map fun d => (d.code, (⟨d.issues, false⟩ : Expectation))) =
      p.expectations.entries := by
    rw [declarations, List.map_map]
    refine (List.map_congr_left fun e he => ?_).trans (List.map_id _)
    obtain ⟨code, issues, hit⟩ := e
    have hhit : hit = false := h _ he
    rw [hhit]
    rfl
  have hdict : (ofDeclarations p.declarations).expectations = p.expectations := by
    rw [expectations_ofDeclarations, hentries]
    exact Dict.ext_entries (Dict.entries_ofList p.expectations.nodup)
  exact congrArg Pragma.mk hdict

end Pragma

/-! ### The property -/

/-- A table as a scan makes it. -/
structure Table.Regular (t : Table) : Prop where
  ordered : t.entries.Pairwise fun a b => a.1 < b.1
  numbered : ∀ e ∈ t.entries, 1 ≤ e.1
  declares : ∀ e ∈ t.entries, e.2.declarations ≠ []
  unhit : ∀ e ∈ t.entries, e.2.Unhit
  writable : ∀ e ∈ t.entries, ∀ d ∈ e.2.declarations, d.Writable
  oneLine : ∀ e ∈ t.entries, ∀ d ∈ e.2.declarations, '\n' ∉ d.chars

/-! ### What is declared in the lines -/

namespace LookBack

variable {openers : List String}

/-- The characters of what is declared in a line stand in this line. -/
theorem writable_of_mem_declaredIn {l : List Char} {d : Declaration}
    (h : d ∈ declaredIn openers l) : d.Writable ∧ d.chars ⊆ l := by
  unfold declaredIn at h
  cases hread : Declaration.ofComment (Line.classify openers l).comment with
  | error e =>
    rw [hread] at h
    exact absurd h List.not_mem_nil
  | ok ds =>
    have hds : d ∈ ds := by rwa [hread] at h
    rw [Declaration.ofComment_eq] at hread
    obtain ⟨hshort, rfl⟩ := Text.Numeral.unlessTooLong_eq_ok_iff.mp hread
    obtain ⟨hw, hsub⟩ := Declaration.writable_of_mem_declared hshort d hds
    exact ⟨hw, List.Subset.trans hsub (Line.comment_subset openers l)⟩

/-- What is declared for a line is declared in one of the lines. -/
theorem mem_declaredIn_of_mem_declarationsAt {ls : List (List Char)} {e : List Char × Nat}
    (he : e.1 ∈ ls) {d : Declaration} (h : d ∈ declarationsAt openers ls e) :
    ∃ l ∈ ls, d ∈ declaredIn openers l := by
  rcases List.mem_append.mp h with hwait | hown
  · obtain ⟨l, hl, hd⟩ := List.mem_flatMap.mp hwait
    have hsuffix := List.rtakeWhile_suffix (isComment openers) (ls.take (e.2 - 1))
    exact ⟨l, List.mem_of_mem_take (hsuffix.mem hl), hd⟩
  · unfold own at hown
    split at hown
    · exact ⟨e.1, he, hown⟩
    · exact absurd hown List.not_mem_nil

/-- A summary makes up no declaration. -/
theorem mem_of_mem_declarations_summary {ds : List Declaration} {d : Declaration}
    (h : d ∈ (summary ds).declarations) : d ∈ ds := by
  unfold Pragma.declarations at h
  obtain ⟨entry, hentry, rfl⟩ := List.mem_map.mp h
  obtain ⟨c, hc, rfl⟩ := List.mem_map.mp hentry
  rw [codes, List.mem_eraseDups] at hc
  obtain ⟨d', hd', hcode⟩ := List.mem_map.mp hc
  have hne : ds.filter (·.code = c) ≠ [] :=
    List.ne_nil_of_mem (List.mem_filter.mpr ⟨hd', decide_eq_true hcode⟩)
  obtain ⟨last, hlast⟩ := Option.isSome_iff_exists.mp (List.getLast?_isSome.mpr hne)
  obtain ⟨hmem, hlastCode⟩ := List.mem_filter.mp (List.mem_of_getLast? hlast)
  have hissues : lastIssues ds c = last.issues := by
    rw [lastIssues, hlast]
    rfl
  show (⟨c, lastIssues ds c⟩ : Declaration) ∈ ds
  rw [hissues, ← of_decide_eq_true hlastCode]
  exact hmem

theorem declarations_summary_ne_nil {ds : List Declaration} (h : ds ≠ []) :
    (summary ds).declarations ≠ [] := by
  obtain ⟨d, ds, rfl⟩ := List.exists_cons_of_ne_nil h
  have hcode : d.code ∈ codes (d :: ds) := by
    rw [codes, List.mem_eraseDups]
    exact List.mem_map_of_mem List.mem_cons_self
  intro hnil
  unfold Pragma.declarations at hnil
  have hentries : (summary (d :: ds)).expectations.entries = [] := List.map_eq_nil_iff.mp hnil
  have hcodes : codes (d :: ds) = [] := List.map_eq_nil_iff.mp hentries
  rw [hcodes] at hcode
  exact List.not_mem_nil hcode

theorem table_regular (openers : List String) (content : List Char) :
    (table openers content).Regular := by
  have hentry : ∀ e ∈ (table openers content).entries, ∃ l n, l ∈ pieces content ∧ 1 ≤ n ∧
      declarationsAt openers (pieces content) (l, n) ≠ [] ∧
      e = ((n : Int), summary (declarationsAt openers (pieces content) (l, n))) := by
    intro e he
    obtain ⟨⟨l, n⟩, hln, rfl⟩ := List.mem_map.mp he
    obtain ⟨hmem, hcarries⟩ := List.mem_filter.mp hln
    obtain ⟨hn, hlt, hl⟩ := List.mem_zipIdx hmem
    have hne : declarationsAt openers (pieces content) (l, n) ≠ [] := by
      rw [carries, Bool.and_eq_true, decide_eq_true_eq] at hcarries
      exact hcarries.2
    exact ⟨l, n, hl ▸ List.getElem_mem _, hn, hne, rfl⟩
  have hwritable : ∀ e ∈ (table openers content).entries, ∀ d ∈ e.2.declarations,
      d.Writable ∧ '\n' ∉ d.chars := by
    intro e he d hd
    obtain ⟨l, n, hl, -, -, rfl⟩ := hentry e he
    obtain ⟨l', hl', hdl'⟩ :=
      mem_declaredIn_of_mem_declarationsAt hl (mem_of_mem_declarations_summary hd)
    obtain ⟨hw, hsub⟩ := writable_of_mem_declaredIn hdl'
    rw [← lines_eq_pieces] at hl'
    exact ⟨hw, fun hmem => Text.newline_not_mem_of_mem_lines hl' (hsub hmem)⟩
  refine ⟨?_, fun e he => ?_, fun e he => ?_, fun e he => ?_, fun e he d hd =>
    (hwritable e he d hd).1, fun e he d hd => (hwritable e he d hd).2⟩
  · have hnumbers : ((pieces content).zipIdx 1).Pairwise fun a b => a.2 < b.2 := by
      rw [← List.pairwise_map, List.zipIdx_map_snd]
      exact List.pairwise_lt_range'
    refine List.pairwise_map.mpr ((hnumbers.filter _).imp fun hab => ?_)
    exact Int.ofNat_lt.mpr hab
  · obtain ⟨l, n, -, hn, -, rfl⟩ := hentry e he
    exact Int.ofNat_le.mpr hn
  · obtain ⟨l, n, -, -, hne, rfl⟩ := hentry e he
    exact declarations_summary_ne_nil hne
  · obtain ⟨l, n, -, -, -, rfl⟩ := hentry e he
    intro x hx
    obtain ⟨c, -, rfl⟩ := List.mem_map.mp hx
    rfl

end LookBack

/-- Every table that a scan gives is regular. -/
theorem Table.Regular.of_scan {openers : List String} {content : List Char} {t : Table}
    (h : scan openers content = .ok t) : t.Regular := by
  have hread := h
  rw [scan_eq] at hread
  obtain ⟨hshort, -⟩ := Text.Numeral.unlessTooLong_eq_ok_iff.mp hread
  rw [scan_eq_ok_table hshort] at h
  rw [← Except.ok.inj h]
  exact LookBack.table_regular openers content

end FixturePragmas
