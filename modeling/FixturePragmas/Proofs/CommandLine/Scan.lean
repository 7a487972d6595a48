import FixturePragmas.CommandLine.Program
import FixturePragmas.Proofs.CommandLine.Settings
import FixturePragmas.Proofs.Dict
import FixturePragmas.Proofs.Fixture

/-!
# What a scan writes and how it ends

Nothing is written to the output before all paths are dealt with: loading settings and scanning a
path write warnings and log notes only (`silent_loadSettings`, `silent_scanPath`). Each path is
skipped, scanned, or ends the run (`outcome_scanPath`), so the first that cannot be read decides the
exit code (`transcript_of_first_failure`), and a run that ends well has written about exactly the
paths that were not skipped (`transcript_of_all_read`). The one thing that is not reported as it
should be is a fault in loading the settings: tables that clash, for which there is no message, end
the run at a fault.
-/

namespace FixturePragmas.CommandLine

open Text.Utf8 (encode)

/-! ### Runs without output -/

/-- A run that writes nothing to the output. -/
abbrev Run.Silent {α : Type} (x : Run α) : Prop := x.Writes fun ev => ev.output = []

namespace Run

variable {α β : Type}

theorem Silent.output {x : Run α} (h : x.Silent) : x.entries.flatMap Event.output = [] :=
  List.flatMap_eq_nil_iff.mpr h

theorem silent_mapEntries_log {ε : Type} (x : Journal Log.Note ε α) :
    (x.mapEntries Event.log).Writes fun ev => ev.output = [] := by
  intro ev hev
  obtain ⟨n, -, rfl⟩ := List.mem_map.mp hev
  rfl

theorem silent_ofNotes {ε : Type} (stop : ε → Stop) (x : Journal Log.Note ε α) :
    (ofNotes stop x).Silent :=
  silent_mapEntries_log x

theorem silent_log (n : Log.Note) : (Run.log n).Silent := .write rfl

theorem silent_warn (c : Terminal.Console) (cs : List Char) : (Run.write (c.warn cs)).Silent :=
  .write rfl

theorem silent_fail (f : Failure) : (fail f : Run α).Silent := .of_nil rfl

theorem silent_fault (f : Fault) : (fault f : Run α).Silent := .of_nil rfl

end Run

theorem silent_loadSettings (fs : FileSystem) (path? : Option Path) :
    (loadSettings fs path?).Silent :=
  Run.silent_ofNotes _ _

namespace ScanRequest

variable {fs : FileSystem} {ctx : Context} {c : Catalog} {r : ScanRequest} {p : Path}

/-! ### One path -/

/-- Whether a path is left out: no openers are given, and it has no dialect. -/
def Skips (r : ScanRequest) (c : Catalog) (p : Path) : Prop := r.openers = [] ∧ c.resolve? p = none

instance (r : ScanRequest) (c : Catalog) (p : Path) : Decidable (r.Skips c p) :=
  inferInstanceAs (Decidable (_ ∧ _))

/-- The file at a path cannot be read, and a command that reads it ends with this code. -/
inductive ReadingFails (fs : FileSystem) (p : Path) : Nat → Prop
  | missing (h : fs.bytes p = .error .notFound) : ReadingFails fs p 66
  | malformed {bs : List UInt8} (h : fs.bytes p = .ok bs) (hbs : ∀ cs, bs ≠ encode cs) :
    ReadingFails fs p 65
  | io {fault : FileFault} (h : fs.bytes p = .error fault) (hfault : fault ≠ .notFound) :
    ReadingFails fs p 74

/-- The file at a path holds text. -/
def Readable (fs : FileSystem) (p : Path) : Prop := ∃ cs, fs.bytes p = .ok (encode cs)

/-- No column in the comments of the file at a path is too long to be read. -/
def ColumnsFit (fs : FileSystem) (c : Catalog) (r : ScanRequest) (p : Path) : Prop :=
  ∀ cs openers, fs.bytes p = .ok (encode cs) →
    Fixture.openersUnder c r.openers? p = some openers →
    ∀ ds ∈ Scan.numerals openers (Fixture.content cs), ds.length ≤ Text.Numeral.limit

/-- What a path leads to whose fixture is read with this outcome. -/
def outcomeAt (p : Path) : Except Fixture.Failure Fixture → Except Stop Outcome
  | .ok f => .ok (.scanned f)
  | .error (.unknownDialect _) => .ok (.skipped p)
  | .error (.unreadable e) => .error (.failed (.ofReadError e))
  | .error .nulInPath => .error (.faulted .nulInPath)
  | .error (.column e) => .error (.faulted (.numeral e))

theorem outcome_scanPath (fs : FileSystem) (ctx : Context) (c : Catalog) (r : ScanRequest)
    (p : Path) :
    (scanPath fs ctx c r p).outcome = outcomeAt p (Fixture.ofFile fs c r.openers? p).outcome := by
  rw [scanPath, Journal.outcome_bind, Journal.outcome_attempt, Journal.outcome_mapEntries]
  -- only the first failure, a path without a dialect, is handled by more than an equation
  rcases (Fixture.ofFile fs c r.openers? p).outcome with (_ | _ | _ | _) | f
  · show (if 0 ≤ ctx.verbosity then _ else _ : Run Outcome).outcome = _
    split <;> rfl
  all_goals rfl

theorem silent_scanPath (fs : FileSystem) (ctx : Context) (c : Catalog) (r : ScanRequest)
    (p : Path) : (scanPath fs ctx c r p).Silent := by
  refine .bind (Run.silent_mapEntries_log _) fun read => ?_
  -- one case for each way in which reading ends, in the order of `outcomeAt`
  rcases read with (_ | _ | _ | _) | f
  · show (if 0 ≤ ctx.verbosity then _ else _ : Run Outcome).Silent
    split
    · exact .bind (Run.silent_warn _ _) fun _ => .of_nil rfl
    · exact .of_nil rfl
  · exact Run.silent_fail _
  · exact Run.silent_fault _
  · exact Run.silent_fault _
  · exact .bind (Run.silent_log _) fun _ => .of_nil rfl

theorem openersUnder_eq_none_iff :
    Fixture.openersUnder c r.openers? p = none ↔ r.Skips c p := by
  unfold Fixture.openersUnder openers? Skips Catalog.openersFor?
  by_cases h : r.openers = [] <;> simp [h]

theorem exists_openersUnder (h : ¬r.Skips c p) :
    ∃ openers, Fixture.openersUnder c r.openers? p = some openers :=
  Option.ne_none_iff_exists'.mp fun hnone => h (openersUnder_eq_none_iff.mp hnone)

theorem ofFile_of_skips (h : r.Skips c p) :
    (Fixture.ofFile fs c r.openers? p).outcome = .error (.unknownDialect p) :=
  Fixture.outcome_ofFile_of_no_openers fs (openersUnder_eq_none_iff.mpr h)

/-- A path that is not skipped and cannot be read ends the run, with the code of its fault. -/
theorem ofFile_of_readingFails {code : Nat} (hnul : p.hasNul = false) (hskip : ¬r.Skips c p)
    (h : ReadingFails fs p code) :
    ∃ e, (Fixture.ofFile fs c r.openers? p).outcome = .error (.unreadable e) ∧
      (Failure.ofReadError e).kind.exitCode = code := by
  obtain ⟨openers, hopeners⟩ := exists_openersUnder hskip
  have hread := FileSystem.read_eq fs hnul
  cases h with
  | missing hbytes =>
    rw [hbytes] at hread
    exact ⟨_, Fixture.outcome_ofFile_of_open_error hopeners hread, rfl⟩
  | malformed hbytes hbs =>
    rw [hbytes] at hread
    obtain ⟨m, hm⟩ := Fixture.outcome_ofFile_of_not_encode hopeners hread hbs
    exact ⟨_, hm, rfl⟩
  | io hbytes hfault =>
    rw [hbytes] at hread
    refine ⟨_, Fixture.outcome_ofFile_of_open_error hopeners hread, ?_⟩
    rw [if_neg hfault]
    rfl

/-- The fixture `f` is read from `p`: its table is that of the text in this file. -/
def ReadFrom (fs : FileSystem) (c : Catalog) (r : ScanRequest) (p : Path) (f : Fixture) : Prop :=
  f.path? = some p ∧ ∃ cs openers, fs.bytes p = .ok (encode cs) ∧
    Fixture.openersUnder c r.openers? p = some openers ∧
    scan openers (Fixture.content cs) = .ok f.table

/-- A path gives the fixture of the text in its file. -/
def Gives (fs : FileSystem) (c : Catalog) (r : ScanRequest) (p : Path) : Prop :=
  ∃ f, (Fixture.ofFile fs c r.openers? p).outcome = .ok f ∧ ReadFrom fs c r p f

theorem gives_of_readable (hnul : p.hasNul = false) (hskip : ¬r.Skips c p) (h : Readable fs p)
    (hfit : ColumnsFit fs c r p) : Gives fs c r p := by
  obtain ⟨openers, hopeners⟩ := exists_openersUnder hskip
  obtain ⟨cs, hbytes⟩ := h
  have hscan := scan_eq_ok (hfit cs openers hbytes hopeners)
  have hread := FileSystem.read_eq fs hnul
  rw [hbytes] at hread
  refine ⟨⟨Scan.tableOf (Scan.readLines openers (Fixture.content cs)), openers, some p⟩, ?_,
    rfl, cs, openers, hbytes, hopeners, hscan⟩
  rw [Fixture.outcome_ofFile_of_text hopeners hread, hscan]
  rfl

/-! ### All paths -/

/-- When every path is skipped or read, the outcomes are the fixtures of the paths that are not
skipped, in the order of the paths, and the skipped paths. -/
theorem exists_outcomes {ps : List Path}
    (h : ∀ p ∈ ps, ¬r.Skips c p → Gives fs c r p) :
    ∃ os, (ps.mapM fun p => outcomeAt p (Fixture.ofFile fs c r.openers? p).outcome) = .ok os ∧
      List.Forall₂ (ReadFrom fs c r) (ps.filter fun p => !decide (r.Skips c p)) (fixtures os) ∧
      skippedPaths os = ps.filter fun p => decide (r.Skips c p) := by
  induction ps with
  | nil => exact ⟨[], rfl, .nil, rfl⟩
  | cons p ps ih =>
    obtain ⟨os, hos, hfixtures, hskipped⟩ := ih fun p' hp' => h p' (List.mem_cons_of_mem p hp')
    -- the path comes into the second list or into the first, never into both
    by_cases hskip : r.Skips c p
    · refine ⟨.skipped p :: os, ?_, ?_, ?_⟩
      · rw [List.mapM_cons, hos, ofFile_of_skips hskip]
        rfl
      · rw [List.filter_cons_of_neg (by simpa using hskip)]
        exact hfixtures
      · rw [List.filter_cons_of_pos (by simpa using hskip), ← hskipped]
        rfl
    · obtain ⟨f, hf, hread⟩ := h p List.mem_cons_self hskip
      refine ⟨.scanned f :: os, ?_, ?_, ?_⟩
      · rw [List.mapM_cons, hos, hf]
        rfl
      · rw [List.filter_cons_of_pos (by simpa using hskip)]
        exact .cons hread hfixtures
      · rw [List.filter_cons_of_neg (by simpa using hskip), ← hskipped]
        rfl

/-- The first path that is not skipped and cannot be read decides. -/
theorem exists_mapM_eq_error {before : List Path} (after : List Path) {code : Nat}
    (hbefore : ∀ q ∈ before, ¬r.Skips c q → Gives fs c r q)
    (hnul : p.hasNul = false) (hskip : ¬r.Skips c p) (hfails : ReadingFails fs p code) :
    ∃ f : Failure, f.kind.exitCode = code ∧
      ((before ++ p :: after).mapM fun q =>
        outcomeAt q (Fixture.ofFile fs c r.openers? q).outcome) = .error (.failed f) := by
  obtain ⟨e, he, hcode⟩ := ofFile_of_readingFails hnul hskip hfails
  refine ⟨.ofReadError e, hcode, Steps.mapM_eq_error_of_first (fun q hq => ?_) ?_⟩
  -- each path before it gives some outcome, so that the run gets to this one
  · by_cases hq' : r.Skips c q
    · exact ⟨.skipped q, by rw [ofFile_of_skips hq']; rfl⟩
    · obtain ⟨f, hf, -⟩ := hbefore q hq hq'
      exact ⟨.scanned f, by rw [hf]; rfl⟩
  · rw [he]
    rfl

theorem outcome_scanAll (fs : FileSystem) (ctx : Context) (c : Catalog) (r : ScanRequest)
    (ps : List Path) :
    (ps.mapM (scanPath fs ctx c r)).outcome =
      ps.mapM fun p => outcomeAt p (Fixture.ofFile fs c r.openers? p).outcome := by
  rw [Journal.outcome_mapM]
  exact congrArg (ps.mapM ·) (funext (outcome_scanPath fs ctx c r))

theorem silent_scanAll (fs : FileSystem) (ctx : Context) (c : Catalog) (r : ScanRequest)
    (ps : List Path) : (ps.mapM (scanPath fs ctx c r)).Silent :=
  .mapM (silent_scanPath fs ctx c r) ps

/-! ### The run -/

/-- What a run does when all paths are dealt with. -/
def finish (ctx : Context) (r : ScanRequest) (os : List Outcome) : Run Unit :=
  if fixtures os = [] ∧ skippedPaths os ≠ [] then
    .fail ⟨.unsupportedFileType, "No comment dialect known for: "
      ++ ", ".intercalate ((skippedPaths os).map Path.toString)⟩
  else Journal.writeAll ((output ctx r (fixtures os)).map .write)

theorem run_eq (fs : FileSystem) (ctx : Context) (r : ScanRequest) :
    r.run fs ctx = loadSettings fs r.settings? >>= fun settings =>
      r.paths.mapM (scanPath fs ctx settings.catalogInUse r) >>= finish ctx r := by
  unfold run
  -- the two sides differ only in what is done with the outcomes
  refine congrArg _ (funext fun settings => congrArg _ (funext fun os => ?_))
  unfold finish
  split <;> rfl

section

variable {settings : Settings} {os : List Outcome} {stop : Stop}

theorem run_of_load_error (ctx : Context)
    (hload : (loadSettings fs r.settings?).outcome = .error stop) :
    (r.run fs ctx).outcome = .error stop ∧ (r.run fs ctx).Silent := by
  rw [run_eq, Journal.bind_of_error hload]
  exact ⟨rfl, silent_loadSettings fs r.settings?⟩

variable (hload : (loadSettings fs r.settings?).outcome = .ok settings)

include hload

theorem run_of_scan_error (ctx : Context)
    (hscan : (r.paths.mapM (scanPath fs ctx settings.catalogInUse r)).outcome = .error stop) :
    (r.run fs ctx).outcome = .error stop ∧ (r.run fs ctx).Silent := by
  have hsilent := silent_scanAll fs ctx settings.catalogInUse r r.paths
  refine ⟨?_, ?_⟩
  · rw [run_eq, Journal.outcome_bind, hload]
    exact congrArg Journal.outcome (Journal.bind_of_error hscan _)
  · intro ev hev
    -- an entry was written while the settings were loaded or while the paths were scanned
    rw [run_eq, Journal.entries_bind_of_ok hload, Journal.bind_of_error hscan] at hev
    rcases List.mem_append.mp hev with hev | hev
    · exact silent_loadSettings fs r.settings? ev hev
    · exact hsilent ev hev

theorem run_of_scanned (ctx : Context)
    (hscan : (r.paths.mapM (scanPath fs ctx settings.catalogInUse r)).outcome = .ok os) :
    (r.run fs ctx).outcome = (finish ctx r os).outcome ∧
      (r.run fs ctx).entries.flatMap Event.output =
        (finish ctx r os).entries.flatMap Event.output := by
  have hload' := (silent_loadSettings fs r.settings?).output
  have hscan' := (silent_scanAll fs ctx settings.catalogInUse r r.paths).output
  rw [run_eq]
  refine ⟨?_, ?_⟩
  · rw [Journal.outcome_bind, hload]
    show (Journal.outcome _) = _
    rw [Journal.outcome_bind, hscan]
    rfl
  · rw [Journal.entries_bind_of_ok hload, Journal.entries_bind_of_ok hscan, List.flatMap_append,
      List.flatMap_append, hload', hscan', List.nil_append, List.nil_append]

end

/-! ### What is written -/

/-- The lines about a fixture: one for each pragma, in the order of the lines they are for. When
there is none, that is said if more is asked for than usual. -/
def linesAbout (ctx : Context) (f : Fixture) : List (List Char) :=
  if f.table.isEmpty then
    if 0 < ctx.verbosity then
      [ctx.console.styled { dim? := some true } ((pathText f).toList ++ ": no pragmas".toList)]
    else []
  else f.inOrder.map fun e => pragmaLine ctx.console f e.1 e.2

/-- The members of the JSON object about several fixtures: each path once, in the place where it
first comes, with the fixture that was last read from it. -/
def membersOf (fs : List Fixture) : List (String × Json) :=
  (fs.map pathText).eraseDups.filterMap fun t =>
    (fs.reverse.find? fun f => pathText f = t).map fun f => (t, f.toJson)

theorem jsonOf_eq (fs : List Fixture) : jsonOf fs = .object (membersOf fs) := by
  rw [jsonOf, Dict.toList, Dict.entries_ofList_eq, membersOf, List.map_map, ← List.map_reverse]
  simp only [List.find?_map, Option.map_map]
  rfl

theorem report_eq (ctx : Context) (f : Fixture) :
    report ctx f = (linesAbout ctx f).map ctx.console.print := by
  unfold report linesAbout
  cases h : f.table.isEmpty with
  | false => simp [Function.comp_def]
  | true =>
    rw [Fixture.inOrder_of_isEmpty h]
    by_cases hv : 0 < ctx.verbosity <;> simp [hv]

/-- What is written to the output about several fixtures. -/
def outputText (ctx : Context) (r : ScanRequest) (fs : List Fixture) : List Char :=
  match r.format with
  | .default =>
    fs.flatMap fun f => (linesAbout ctx f).flatMap fun l => ctx.console.shown (l ++ ['\n'])
  | .json => ctx.console.shown (((Json.object (membersOf fs)).render .indented).toList ++ ['\n'])

theorem output_eq (ctx : Context) (r : ScanRequest) (fs : List Fixture) :
    (output ctx r fs).flatMap (fun p => (Event.write p).output) = outputText ctx r fs := by
  unfold output outputText
  cases r.format with
  | default =>
    rw [List.flatMap_assoc]
    refine List.flatMap_congr fun f _ => ?_
    rw [report_eq, List.flatMap_map]
    rfl
  | json =>
    rw [jsonOf_eq, List.flatMap_singleton]
    rfl

/-! ### The whole command -/

theorem transcript_of_silent (g : Log.Logger) {x : Run Unit} {stop : Stop}
    (h : x.outcome = .error stop ∧ x.Silent) :
    (transcript g x).output = [] ∧ (transcript g x).ending = endingOf (.error stop) :=
  ⟨h.2.output, congrArg endingOf h.1⟩

section

variable {s : Settings} (g : Log.Logger) (ctx : Context)
  (hload : (loadSettings fs r.settings?).outcome = .ok s)

include hload

theorem transcript_of_first_failure {before after : List Path} {code : Nat}
    (hsplit : r.paths = before ++ p :: after)
    (hbefore : ∀ q ∈ before, ¬r.Skips s.catalogInUse q → Gives fs s.catalogInUse r q)
    (hnul : p.hasNul = false) (hskip : ¬r.Skips s.catalogInUse p)
    (hfails : ReadingFails fs p code) :
    (transcript g (r.run fs ctx)).output = [] ∧
      (transcript g (r.run fs ctx)).ending = .exited code := by
  obtain ⟨f, hcode, hscan⟩ := exists_mapM_eq_error after hbefore hnul hskip hfails
  rw [← hsplit, ← outcome_scanAll fs ctx] at hscan
  obtain ⟨hout, hend⟩ := transcript_of_silent g (run_of_scan_error hload ctx hscan)
  exact ⟨hout, hend.trans (congrArg Ending.exited hcode)⟩

theorem transcript_of_all_skipped (hpaths : r.paths ≠ [])
    (hall : ∀ p ∈ r.paths, r.Skips s.catalogInUse p) :
    (transcript g (r.run fs ctx)).output = [] ∧
      (transcript g (r.run fs ctx)).ending = .exited 69 := by
  obtain ⟨os, hscan, hfixtures, hskipped⟩ := exists_outcomes
    fun p hp hskip => absurd (hall p hp) hskip
  rw [← outcome_scanAll fs ctx] at hscan
  -- no path is kept, so there is no fixture; all are skipped, so there is a path that is
  have hkept : (r.paths.filter fun p => !decide (r.Skips s.catalogInUse p)) = [] := by
    simpa [List.filter_eq_nil_iff] using hall
  rw [hkept, List.forall₂_nil_left_iff] at hfixtures
  have hleft : skippedPaths os = r.paths := by
    rw [hskipped, List.filter_eq_self]
    exact fun p hp => decide_eq_true (hall p hp)
  have hfinish : finish ctx r os = .fail _ := if_pos ⟨hfixtures, hleft ▸ hpaths⟩
  obtain ⟨hout, hend⟩ := run_of_scanned hload ctx hscan
  rw [hfinish] at hout hend
  exact ⟨hend, congrArg endingOf hout⟩

theorem transcript_of_all_read
    (hread : ∀ p ∈ r.paths, ¬r.Skips s.catalogInUse p → Gives fs s.catalogInUse r p)
    (hsome : ∃ p ∈ r.paths, ¬r.Skips s.catalogInUse p) :
    (transcript g (r.run fs ctx)).ending = .exited 0 ∧
      ∃ fixtures : List Fixture,
        List.Forall₂ (ReadFrom fs s.catalogInUse r)
            (r.paths.filter fun p => !decide (r.Skips s.catalogInUse p)) fixtures ∧
          (transcript g (r.run fs ctx)).output = outputText ctx r fixtures := by
  obtain ⟨os, hscan, hfixtures, -⟩ := exists_outcomes hread
  rw [← outcome_scanAll fs ctx] at hscan
  obtain ⟨p, hp, hskip⟩ := hsome
  -- the path that is not skipped has a fixture, so the run does not fail for want of one
  have hne : fixtures os ≠ [] := by
    intro hnil
    rw [hnil, List.forall₂_nil_right_iff, List.filter_eq_nil_iff] at hfixtures
    exact hfixtures p hp (by simpa using hskip)
  have hfinish : finish ctx r os = Journal.writeAll _ := if_neg fun h => hne h.1
  obtain ⟨hout, hend⟩ := run_of_scanned hload ctx hscan
  rw [hfinish] at hout hend
  refine ⟨congrArg endingOf hout, fixtures os, hfixtures, hend.trans ?_⟩
  rw [← output_eq, Journal.writeAll, List.flatMap_map]

end

/-- A scan writes nothing to the output unless it ends well, and then it has written about exactly
the paths that are not skipped, in their order. The first path that is not skipped and cannot be
read decides the exit code; when all are skipped, that is a failure of its own. Settings that cannot
be loaded are a failure too; but when tables clash in them, or the file system does not tell whether
there are any, the run ends at a fault. -/
theorem run_all_or_nothing (g : Log.Logger) (fs : FileSystem) (ctx : Context) (r : ScanRequest)
    (hpaths : r.paths ≠ []) (hnul : ∀ p ∈ r.paths, p.hasNul = false)
    (hnul' : ∀ p ∈ r.settings?, p.hasNul = false)
    (htext : ∀ p ∈ Settings.candidates r.settings? fs.workingDirectory,
      ∀ bs, fs.bytes p = .ok bs → ∃ cs, bs = encode cs)
    (hfit : ∀ s, (Settings.load fs r.settings? fs.workingDirectory).outcome = .ok s →
      ∀ p ∈ r.paths, ColumnsFit fs s.catalogInUse r p) :
    (∀ fault, (Settings.load fs r.settings? fs.workingDirectory).outcome = .error fault →
        (transcript g (r.run fs ctx)).output = [] ∧
          ((∃ e, fault = .settings e) ∧ (transcript g (r.run fs ctx)).ending = .exited 78 ∨
            (∃ e, fault = .clash e ∧ (transcript g (r.run fs ctx)).ending = .faulted (.clash e)) ∨
            ∃ e, fault = .system e ∧
              (transcript g (r.run fs ctx)).ending = .faulted (.system e))) ∧
      ∀ s, (Settings.load fs r.settings? fs.workingDirectory).outcome = .ok s →
        (∀ before p after code, r.paths = before ++ p :: after →
            (∀ q ∈ before, r.Skips s.catalogInUse q ∨ Readable fs q) →
            ¬r.Skips s.catalogInUse p → ReadingFails fs p code →
            (transcript g (r.run fs ctx)).output = [] ∧
              (transcript g (r.run fs ctx)).ending = .exited code) ∧
          ((∀ p ∈ r.paths, r.Skips s.catalogInUse p) →
            (transcript g (r.run fs ctx)).output = [] ∧
              (transcript g (r.run fs ctx)).ending = .exited 69) ∧
          ((∀ p ∈ r.paths, r.Skips s.catalogInUse p ∨ Readable fs p) →
            (∃ p ∈ r.paths, ¬r.Skips s.catalogInUse p) →
            (transcript g (r.run fs ctx)).ending = .exited 0 ∧
              ∃ fixtures : List Fixture,
                List.Forall₂ (ReadFrom fs s.catalogInUse r)
                    (r.paths.filter fun p => !decide (r.Skips s.catalogInUse p)) fixtures ∧
                  (transcript g (r.run fs ctx)).output = outputText ctx r fixtures) := by
  refine ⟨fun fault hfault => ?_, fun s hs => ?_⟩
  · have hload : (loadSettings fs r.settings?).outcome = .error (stopOfLoadFault fault) := by
      rw [outcome_loadSettings, hfault]
      rfl
    obtain ⟨hout, hend⟩ := transcript_of_silent g (run_of_load_error ctx hload)
    refine ⟨hout, ?_⟩
    rw [hend]
    -- of all faults in loading, only these are left for paths without NUL and files that are text
    cases Settings.load_failsAs hnul' htext fault hfault with
    | settings e => exact .inl ⟨⟨e, rfl⟩, rfl⟩
    | clash e => exact .inr (.inl ⟨e, rfl, rfl⟩)
    | system e => exact .inr (.inr ⟨e, rfl, rfl⟩)
  · have hload : (loadSettings fs r.settings?).outcome = .ok s := by
      rw [outcome_loadSettings, hs]
      rfl
    -- the hypotheses on NUL and columns turn a readable path into one that gives a fixture
    have hread : ∀ p ∈ r.paths, r.Skips s.catalogInUse p ∨ Readable fs p →
        ¬r.Skips s.catalogInUse p → Gives fs s.catalogInUse r p := fun p hp hor hskip =>
      gives_of_readable (hnul p hp) hskip (hor.resolve_left hskip) (hfit s hs p hp)
    refine ⟨fun before p after code hsplit hbefore hskip hfails => ?_, fun hall => ?_,
      fun hall hsome => ?_⟩
    · have hmem : ∀ q ∈ before ++ p :: after, q ∈ r.paths := fun q hq => hsplit ▸ hq
      exact transcript_of_first_failure g ctx hload hsplit
        (fun q hq => hread q (hmem q (List.mem_append_left _ hq)) (hbefore q hq))
        (hnul p (hmem p (by simp))) hskip hfails
    · exact transcript_of_all_skipped g ctx hload hpaths hall
    · exact transcript_of_all_read g ctx hload (fun p hp => hread p hp (hall p hp)) hsome

/-- A fixture in Python, and nothing else. -/
def oneFixture : FileSystem :=
  .ofProbes ⟨.single, ["w"]⟩ [⟨⟨.relative, ["a.py"]⟩, .ok (encode "x #[A]\n".toList)⟩]

/-- A path without a dialect, the fixture, and a path without a file. -/
def threePaths : List Path := [⟨.relative, ["c.txt"]⟩, ⟨.relative, ["a.py"]⟩, ⟨.relative, ["b.py"]⟩]

theorem load_oneFixture :
    (Settings.load oneFixture none oneFixture.workingDirectory).outcome = .ok .default := by
  decide +kernel

theorem openersUnder_threePaths :
    threePaths.map (Fixture.openersUnder Settings.default.catalogInUse none) =
      [none, some ["#"], some ["#"]] := by
  decide +kernel

theorem skips_threePaths {r : ScanRequest} (hr : r.openers = []) :
    r.Skips Settings.default.catalogInUse ⟨.relative, ["c.txt"]⟩ ∧
      ¬r.Skips Settings.default.catalogInUse ⟨.relative, ["a.py"]⟩ ∧
      ¬r.Skips Settings.default.catalogInUse ⟨.relative, ["b.py"]⟩ := by
  have hopeners := openersUnder_threePaths
  have hnone : r.openers? = none := if_pos hr
  simp only [threePaths, List.map_cons, List.map_nil, List.cons.injEq, and_true] at hopeners
  simp only [← openersUnder_eq_none_iff, hnone, hopeners]
  exact ⟨trivial, nofun, nofun⟩

theorem filter_threePaths {r : ScanRequest} (hr : r.openers = []) :
    ((threePaths.take 2).filter fun p => !decide (r.Skips Settings.default.catalogInUse p)) =
      [⟨.relative, ["a.py"]⟩] := by
  obtain ⟨hskip, hpython, -⟩ := skips_threePaths hr
  simp [threePaths, hskip, hpython]

theorem columnsFit_oneFixture {s : Settings} {r : ScanRequest} (hr : r.openers = [])
    (hs : (Settings.load oneFixture none oneFixture.workingDirectory).outcome = .ok s) :
    ∀ p ∈ threePaths, ColumnsFit oneFixture s.catalogInUse r p := by
  intro p hp cs openers hbytes hopeners
  rw [load_oneFixture] at hs
  obtain rfl := Except.ok.inj hs
  have hpaths := openersUnder_threePaths
  have hnone : r.openers? = none := if_pos hr
  rw [hnone] at hopeners
  simp only [threePaths, List.map_cons, List.map_nil, List.cons.injEq, and_true] at hpaths
  simp only [threePaths, List.mem_cons, List.not_mem_nil, or_false] at hp
  rcases hp with rfl | rfl | rfl
  · cases hbytes
  · obtain rfl := Option.some.inj (hpaths.2.1.symm.trans hopeners)
    obtain rfl := Text.Utf8.encode_injective (Except.ok.inj hbytes)
    decide +kernel
  · cases hbytes

theorem run_all_or_nothing_oneFixture :
    ((transcript .initial (run oneFixture {} { paths := threePaths })).output = [] ∧
        (transcript .initial (run oneFixture {} { paths := threePaths })).ending = .exited 66) ∧
      (transcript .initial (run oneFixture {} { paths := threePaths.take 2 })).ending = .exited 0 ∧
        ∃ fixtures : List Fixture,
          List.Forall₂
              (ReadFrom oneFixture Settings.default.catalogInUse { paths := threePaths.take 2 })
              [⟨.relative, ["a.py"]⟩] fixtures ∧
            (transcript .initial (run oneFixture {} { paths := threePaths.take 2 })).output =
              outputText {} { paths := threePaths.take 2 } fixtures := by
  have htext : ∀ p ∈ Settings.candidates none oneFixture.workingDirectory,
      ∀ bs, oneFixture.bytes p = .ok bs → ∃ cs, bs = encode cs := by
    intro p hp bs hbs
    simp only [Settings.candidates, List.mem_cons, List.not_mem_nil, or_false] at hp
    rcases hp with rfl | rfl <;> cases hbs
  have hfirst : ∀ r : ScanRequest, r.openers = [] → ∀ q ∈ threePaths.take 2,
      r.Skips Settings.default.catalogInUse q ∨ Readable oneFixture q := by
    intro r hr q hq
    simp only [threePaths, List.take, List.mem_cons, List.not_mem_nil, or_false] at hq
    rcases hq with rfl | rfl
    · exact .inl (skips_threePaths hr).1
    · exact .inr ⟨"x #[A]\n".toList, rfl⟩
  refine ⟨?_, ?_⟩
  · exact ((run_all_or_nothing .initial oneFixture {} { paths := threePaths } (by decide)
      (by decide) (by simp) htext fun s hs => columnsFit_oneFixture rfl hs).2 .default
      load_oneFixture).1 (threePaths.take 2) ⟨.relative, ["b.py"]⟩ [] 66 rfl (hfirst _ rfl)
      (skips_threePaths rfl).2.2 (.missing rfl)
  · have hpython := (skips_threePaths (r := { paths := threePaths.take 2 }) rfl).2.1
    obtain ⟨hend, fixtures, hfixtures, hout⟩ :=
      ((run_all_or_nothing .initial oneFixture {} { paths := threePaths.take 2 } (by decide)
        (by decide) (by simp) htext fun s hs p hp =>
          columnsFit_oneFixture rfl hs p (List.mem_of_mem_take hp)).2 .default
        load_oneFixture).2.2 (hfirst _ rfl) ⟨⟨.relative, ["a.py"]⟩, by simp [threePaths], hpython⟩
    rw [filter_threePaths rfl] at hfixtures
    exact ⟨hend, fixtures, hfixtures, hout⟩

/-- Settings in which a table sets a key twice. -/
def clashingSettings : FileSystem :=
  .ofProbes ⟨.single, ["w"]⟩
    [⟨⟨.single, ["w", "pragmascan.toml"]⟩,
        .ok (encode
          "[dialects.x]\ncomment_prefixes = ['#']\nextensions = []\nextensions = []\n".toList)⟩,
      ⟨⟨.relative, ["a.go"]⟩, .ok (encode "x\n".toList)⟩]

/-- Settings that cannot be loaded end the run at a fault, not with the code for settings. -/
theorem run_clashingSettings :
    (Settings.load clashingSettings none clashingSettings.workingDirectory).outcome =
        .error (.clash (.repeatedKey "extensions")) ∧
      (transcript .initial
          (run clashingSettings {} { paths := [⟨.relative, ["a.go"]⟩] })).ending =
        .faulted (.clash (.repeatedKey "extensions")) := by
  decide +kernel

end ScanRequest

end FixturePragmas.CommandLine
