import FixturePragmas.Proofs.CommandLine.Formats

/-!
# What verbosity changes in a scan

Verbosity is looked at in two places: when a path is skipped, and when a fixture without pragmas is
reported. So the runs of one scan at two verbosities take the same steps, and are compared step by
step (`scanPath_alike`, `finish_alike`, `run_alike`): they end alike whatever is seen of their
entries. Which view of the entries agrees then tells what changed. A quiet run is the usual one
without its warnings, of which there is one for each skipped path (`filter_isWarning_scanAll`); a run
that says more has the same tables in its output, and a line for each fixture without any.
-/

namespace FixturePragmas.CommandLine

open Terminal (escape strip)
open Text.Utf8 (encode)

/-- The same context with verbosity `v`. -/
def Context.withVerbosity (ctx : Context) (v : Int) : Context := { ctx with verbosity? := some v }

@[simp] theorem Context.verbosity_withVerbosity (ctx : Context) (v : Int) :
    (ctx.withVerbosity v).verbosity = v := rfl

@[simp] theorem Context.console_withVerbosity (ctx : Context) (v : Int) :
    (ctx.withVerbosity v).console = ctx.console := rfl

/-- Whether an event is a warning: what is written to the stream of errors past the log. -/
def Event.isWarning : Event → Bool
  | write p => decide (p.stream = .errors)
  | log _ => false

namespace ScanRequest

variable {fs : FileSystem} {ctx : Context} {c : Catalog} {r : ScanRequest} {p : Path}

/-- The warning that a path is skipped. -/
def skipWarning (console : Terminal.Console) (p : Path) : Event :=
  .write (console.warn s!"Skipping {p}: {Fixture.unknownDialectMessage p}".toList)

/-! ### One path -/

/-- What is written when the fixture at a path is read with this outcome. -/
def eventsAt (ctx : Context) (p : Path) : Except Fixture.Failure Fixture → List Event
  | .ok f => [.log (.scanned p f.table.size)]
  | .error (.unknownDialect _) =>
    if 0 ≤ ctx.verbosity then [skipWarning ctx.console p] else []
  | .error _ => []

theorem entries_scanPath (fs : FileSystem) (ctx : Context) (c : Catalog) (r : ScanRequest)
    (p : Path) :
    (scanPath fs ctx c r p).entries = (Fixture.ofFile fs c r.openers? p).entries.map .log ++
      eventsAt ctx p (Fixture.ofFile fs c r.openers? p).outcome := by
  rw [scanPath, Journal.entries_bind_of_ok (Journal.outcome_attempt _), Journal.outcome_mapEntries]
  refine congrArg _ ?_
  rcases (Fixture.ofFile fs c r.openers? p).outcome with (_ | _ | _ | _) | f
  · show (if 0 ≤ ctx.verbosity then _ else _ : Run Outcome).entries = if _ then _ else _
    split <;> rfl
  all_goals rfl

section Views

variable {τ : Type} {f g : Event → List τ} {v w : Int}

/-- What two runs do about a path ends alike, and looks alike if log and warnings do. -/
theorem scanPath_alike (hlog : ∀ n, f (.log n) = g (.log n))
    (hwarn : ∀ p, (if 0 ≤ v then f (skipWarning ctx.console p) else []) =
      if 0 ≤ w then g (skipWarning ctx.console p) else [])
    (fs : FileSystem) (c : Catalog) (r : ScanRequest) (p : Path) :
    Journal.Alike f g (scanPath fs (ctx.withVerbosity v) c r p)
      (scanPath fs (ctx.withVerbosity w) c r p) := by
  refine ⟨?_, by rw [outcome_scanPath, outcome_scanPath]⟩
  rw [entries_scanPath, entries_scanPath, List.flatMap_append, List.flatMap_append,
    List.flatMap_map, List.flatMap_map]
  refine congrArg₂ _ (List.flatMap_congr fun n _ => hlog n) ?_
  rcases (Fixture.ofFile fs c r.openers? p).outcome with (_ | _ | _ | _) | fixture
  -- only a skipped path is treated differently, and there `hwarn` compares the two runs
  · have hskip : ∀ (h : Event → List τ) (u : Int),
        (if 0 ≤ u then [skipWarning ctx.console p] else []).flatMap h =
          if 0 ≤ u then h (skipWarning ctx.console p) else [] := by
      intro h u
      split <;> simp
    exact (hskip f v).trans ((hwarn p).trans (hskip g w).symm)
  · rfl
  · rfl
  · rfl
  · simp [eventsAt, hlog]

/-! ### The run -/

theorem finish_alike
    (hout : ∀ fixtures, (output (ctx.withVerbosity v) r fixtures).flatMap (fun p => f (.write p)) =
      (output (ctx.withVerbosity w) r fixtures).flatMap fun p => g (.write p)) (os : List Outcome) :
    Journal.Alike f g (finish (ctx.withVerbosity v) r os) (finish (ctx.withVerbosity w) r os) := by
  unfold finish
  split
  · exact ⟨rfl, rfl⟩
  · refine ⟨?_, rfl⟩
    show List.flatMap f (List.map _ _) = List.flatMap g (List.map _ _)
    rw [List.flatMap_map, List.flatMap_map]
    exact hout (fixtures os)

/-- Two runs of one scan end alike, and look alike if log, warnings and output do. -/
theorem run_alike (fs : FileSystem) (hlog : ∀ n, f (.log n) = g (.log n))
    (hwarn : ∀ p, (if 0 ≤ v then f (skipWarning ctx.console p) else []) =
      if 0 ≤ w then g (skipWarning ctx.console p) else [])
    (hout : ∀ fixtures, (output (ctx.withVerbosity v) r fixtures).flatMap (fun p => f (.write p)) =
      (output (ctx.withVerbosity w) r fixtures).flatMap fun p => g (.write p)) :
    Journal.Alike f g (r.run fs (ctx.withVerbosity v)) (r.run fs (ctx.withVerbosity w)) := by
  rw [run_eq, run_eq]
  -- one rule for each construct of the run; loading the settings writes notes only
  refine .bind (.of_writes fun ev hev => ?_) fun s => .bind (.mapM ?_ r.paths) (finish_alike hout)
  · obtain ⟨n, -, rfl⟩ := List.mem_map.mp hev
    exact hlog n
  · exact scanPath_alike hlog hwarn fs s.catalogInUse r

end Views

/-- How a run ends does not hang on verbosity. -/
theorem outcome_withVerbosity (fs : FileSystem) (ctx : Context) (r : ScanRequest) (v w : Int) :
    (r.run fs (ctx.withVerbosity v)).outcome = (r.run fs (ctx.withVerbosity w)).outcome := by
  -- a view that sees no entry at all leaves the outcomes to be compared
  have halike : Journal.Alike (fun _ => ([] : List Unit)) (fun _ => [])
      (r.run fs (ctx.withVerbosity v)) (r.run fs (ctx.withVerbosity w)) :=
    run_alike fs (fun _ => rfl) (fun _ => by split <;> split <;> rfl) fun fixtures => by
      rw [List.flatMap_eq_nil_iff.mpr fun _ _ => rfl, List.flatMap_eq_nil_iff.mpr fun _ _ => rfl]
  exact halike.outcome

/-! ### The output -/

/-- What is reported depends only on whether more is asked for than usual. -/
theorem output_withVerbosity {v w : Int} (h : 0 < v ↔ 0 < w) (ctx : Context) (r : ScanRequest)
    (fixtures : List Fixture) :
    output (ctx.withVerbosity v) r fixtures = output (ctx.withVerbosity w) r fixtures := by
  have hreport : ∀ f, report (ctx.withVerbosity v) f = report (ctx.withVerbosity w) f := by
    intro f
    unfold report
    rw [Context.verbosity_withVerbosity, Context.verbosity_withVerbosity, decide_eq_decide.mpr h]
    rfl
  unfold output
  cases r.format with
  | json => rfl
  | default => exact List.flatMap_congr fun f _ => hreport f

theorem stream_of_mem_output {piece : Terminal.Piece} {fixtures : List Fixture}
    (h : piece ∈ output ctx r fixtures) : piece.stream = .output := by
  unfold output at h
  split at h
  · rw [List.mem_singleton.mp h]
    rfl
  · obtain ⟨f, -, hf⟩ := List.mem_flatMap.mp h
    rw [report_eq] at hf
    obtain ⟨l, -, rfl⟩ := List.mem_map.mp hf
    rfl

/-- Unless a run ends well, it writes nothing to the output. -/
theorem outcome_eq_ok_or_silent (fs : FileSystem) (ctx : Context) (r : ScanRequest) :
    (r.run fs ctx).outcome = .ok () ∨ (r.run fs ctx).entries.flatMap Event.output = [] := by
  cases hload : (loadSettings fs r.settings?).outcome with
  | error stop => exact .inr (run_of_load_error ctx hload).2.output
  | ok s =>
    cases hscan : (r.paths.mapM (scanPath fs ctx s.catalogInUse r)).outcome with
    | error stop => exact .inr (run_of_scan_error hload ctx hscan).2.output
    | ok os =>
      obtain ⟨hend, hout⟩ := run_of_scanned hload ctx hscan
      rw [hend, hout]
      unfold finish
      split
      · exact .inr rfl
      · exact .inl rfl

/-- What is written about a fixture without pragmas when more is asked for than usual. -/
def noPragmasText (console : Terminal.Console) (f : Fixture) : List Char :=
  console.shown (console.styled { dim? := some true }
    ((pathText f).toList ++ ": no pragmas".toList) ++ ['\n'])

/-- What is written about the pragmas of a fixture. -/
def tableText (console : Terminal.Console) (f : Fixture) : List Char :=
  f.inOrder.flatMap fun e => console.shown (pragmaLine console f e.1 e.2 ++ ['\n'])

theorem outputText_withVerbosity (ctx : Context) (r : ScanRequest) (v : Int)
    (fixtures : List Fixture) :
    outputText (ctx.withVerbosity v) { r with format := .default } fixtures =
      fixtures.flatMap fun f =>
        (if f.table.isEmpty = true ∧ 0 < v then noPragmasText ctx.console f else []) ++
          tableText ctx.console f := by
  refine List.flatMap_congr fun f _ => ?_
  unfold linesAbout tableText
  by_cases hempty : f.table.isEmpty = true
  · rw [if_pos hempty, Fixture.inOrder_of_isEmpty hempty]
    by_cases hv : 0 < v
    · simp [hempty, hv, noPragmasText]
    · simp [hv]
  · rw [if_neg hempty, if_neg (fun h => hempty h.1), List.flatMap_map, List.nil_append]
    rfl

/-- Without colour control sequences are taken out of the text. -/
theorem noPragmasText_plain {console : Terminal.Console} (h : console.colour = false)
    (f : Fixture) :
    noPragmasText console f = strip (pathText f ++ ": no pragmas").toList ++ ['\n'] := by
  rw [noPragmasText, Terminal.Console.styled, Terminal.Console.shown, h, String.toList_append,
    if_neg Bool.false_ne_true, if_neg Bool.false_ne_true, Terminal.strip_append_newline,
    Terminal.strip_nil]

theorem noPragmasText_of_not_mem {console : Terminal.Console} (h : console.colour = false)
    {f : Fixture} (hescape : escape ∉ (pathText f).toList) :
    noPragmasText console f = (pathText f ++ ": no pragmas").toList ++ ['\n'] := by
  have hwords : escape ∉ ": no pragmas".toList := by decide
  rw [noPragmasText_plain h, Terminal.strip_eq_self]
  rw [String.toList_append, List.mem_append, not_or]
  exact ⟨hescape, hwords⟩

/-! ### The warnings -/

theorem ofFile_ne_unknownDialect (fs : FileSystem) (h : ¬r.Skips c p) :
    Steps.FailsAs (fun e => ∀ q, e ≠ .unknownDialect q)
      (Fixture.ofFile fs c r.openers? p).outcome := by
  obtain ⟨openers, hopeners⟩ := exists_openersUnder h
  rw [Fixture.outcome_ofFile, hopeners, Fixture.outcome_readText]
  -- the openers are known, so each of the steps that are left fails for another reason
  refine .bind (.bind (.mapError fun e _ => ?_) fun bs _ => .bind (.mapError ?_) ?_) fun cs _ =>
    .mapError fun _ _ => nofun
  · cases e <;> exact nofun
  · exact fun _ _ => nofun
  · exact fun _ _ => .ok _

/-- A path is warned about if it is skipped, and else it is not. -/
theorem filter_isWarning_scanPath (fs : FileSystem) (h : 0 ≤ ctx.verbosity) (c : Catalog)
    (r : ScanRequest) (p : Path) :
    (scanPath fs ctx c r p).entries.filter Event.isWarning =
      if r.Skips c p then [skipWarning ctx.console p] else [] := by
  have hlog : ((Fixture.ofFile fs c r.openers? p).entries.map Event.log).filter Event.isWarning =
      [] := by
    rw [List.filter_eq_nil_iff]
    intro ev hev
    obtain ⟨n, -, rfl⟩ := List.mem_map.mp hev
    exact Bool.false_ne_true
  rw [entries_scanPath, List.filter_append, hlog, List.nil_append]
  split
  · next hskip =>
    rw [ofFile_of_skips hskip, eventsAt, if_pos h]
    rfl
  · next hskip =>
    -- a path that is not skipped has openers, so the one case with a warning is excluded
    have hread := ofFile_ne_unknownDialect fs hskip
    generalize (Fixture.ofFile fs c r.openers? p).outcome = read at hread
    rcases read with (q | _ | _ | _) | f
    · exact absurd rfl (hread _ rfl q)
    all_goals rfl

/-- Whether a run goes on behind a path: it is skipped or scanned. -/
def goesOn (fs : FileSystem) (c : Catalog) (r : ScanRequest) (p : Path) : Bool :=
  (outcomeAt p (Fixture.ofFile fs c r.openers? p).outcome).isOk

theorem goesOn_of_skips (h : r.Skips c p) : goesOn fs c r p = true := by
  rw [goesOn, ofFile_of_skips h]
  rfl

/-- The warnings are about the skipped paths, up to the path that ends the run if one does. -/
theorem filter_isWarning_scanAll (fs : FileSystem) (h : 0 ≤ ctx.verbosity) (c : Catalog)
    (r : ScanRequest) (ps : List Path) :
    (ps.mapM (scanPath fs ctx c r)).entries.filter Event.isWarning =
      ((ps.takeWhile (goesOn fs c r)).filter fun p => decide (r.Skips c p)).map
        (skipWarning ctx.console) := by
  induction ps with
  | nil => rfl
  | cons p ps ih =>
    rw [Journal.entries_mapM_cons, List.filter_append, filter_isWarning_scanPath fs h,
      outcome_scanPath, List.takeWhile_cons]
    show _ ++ (if goesOn fs c r p then _ else _ : List Event).filter _ = _
    -- the scan stops at the path that ends the run, and the list of warnings is cut there too
    by_cases hgo : goesOn fs c r p = true
    · rw [if_pos hgo, if_pos hgo, ih]
      by_cases hskip : r.Skips c p <;> simp [hskip]
    · have hskip : ¬r.Skips c p := fun hskip => hgo (goesOn_of_skips hskip)
      rw [if_neg hgo, if_neg hgo, if_neg hskip]
      rfl

theorem filter_isWarning_loadSettings (fs : FileSystem) (path? : Option Path) :
    (loadSettings fs path?).entries.filter Event.isWarning = [] := by
  rw [List.filter_eq_nil_iff]
  intro ev hev
  obtain ⟨n, -, rfl⟩ := List.mem_map.mp hev
  exact Bool.false_ne_true

theorem filter_isWarning_finish (ctx : Context) (r : ScanRequest) (os : List Outcome) :
    (finish ctx r os).entries.filter Event.isWarning = [] := by
  rw [List.filter_eq_nil_iff]
  unfold finish
  intro ev hev
  split at hev
  · exact absurd hev List.not_mem_nil
  · obtain ⟨piece, hpiece, rfl⟩ := List.mem_map.mp hev
    rw [Event.isWarning, stream_of_mem_output hpiece]
    decide

/-- The warnings of a run that is not quiet. -/
theorem filter_isWarning_run (h : 0 ≤ ctx.verbosity) {s : Settings}
    (hload : (loadSettings fs r.settings?).outcome = .ok s) :
    (r.run fs ctx).entries.filter Event.isWarning =
      ((r.paths.takeWhile (goesOn fs s.catalogInUse r)).filter fun p =>
        decide (r.Skips s.catalogInUse p)).map (skipWarning ctx.console) := by
  have hscan := filter_isWarning_scanAll fs h s.catalogInUse r r.paths
  rw [run_eq, Journal.entries_bind_of_ok hload, List.filter_append,
    filter_isWarning_loadSettings, List.nil_append]
  cases ho : (r.paths.mapM (scanPath fs ctx s.catalogInUse r)).outcome with
  | error stop =>
    rw [Journal.bind_of_error ho]
    exact hscan
  | ok os =>
    rw [Journal.entries_bind_of_ok ho, List.filter_append, filter_isWarning_finish,
      List.append_nil]
    exact hscan

/-- A quiet run does what the usual one does, without its warnings. -/
theorem entries_of_quiet (fs : FileSystem) (ctx : Context) (r : ScanRequest) {v : Int}
    (hv : v < 0) :
    (r.run fs (ctx.withVerbosity v)).entries =
      (r.run fs (ctx.withVerbosity 0)).entries.filter fun ev => !ev.isWarning := by
  -- each entry of the quiet run, and each of the usual one that is no warning
  have halike : Journal.Alike (fun ev => [ev]) (fun ev => [ev].filter fun ev => !ev.isWarning)
      (r.run fs (ctx.withVerbosity v)) (r.run fs (ctx.withVerbosity 0)) := by
    refine run_alike fs (fun _ => rfl) (fun p => ?_) fun fixtures => ?_
    · rw [if_neg (by omega), if_pos (by omega)]
      rfl
    · rw [output_withVerbosity (w := 0) (by omega)]
      refine List.flatMap_congr fun piece hpiece => ?_
      simp [Event.isWarning, stream_of_mem_output hpiece]
  have hview := halike.view
  rwa [← List.filter_flatMap, List.flatMap_singleton', List.flatMap_singleton'] at hview

/-- To the stream of errors, runs that are not quiet write the same. -/
theorem errors_of_not_quiet (g : Log.Logger) (fs : FileSystem) (ctx : Context) (r : ScanRequest)
    {v w : Int} (hv : 0 ≤ v) (hw : 0 ≤ w) :
    (r.run fs (ctx.withVerbosity v)).entries.flatMap (Event.errors g) =
      (r.run fs (ctx.withVerbosity w)).entries.flatMap (Event.errors g) := by
  -- the output goes to the other stream, so only warnings and log are left to be compared
  have hsilent : ∀ u fixtures, (output (ctx.withVerbosity u) r fixtures).flatMap
      (fun p => Event.errors g (.write p)) = [] := by
    intro u fixtures
    refine List.flatMap_eq_nil_iff.mpr fun piece hpiece => ?_
    rw [Event.errors, stream_of_mem_output hpiece, if_neg (by decide)]
  refine (run_alike fs (fun _ => rfl) (fun p => ?_) fun fixtures => ?_).view
  · rw [if_pos hv, if_pos hw]
  · rw [hsilent, hsilent]

/-! ### All verbosities -/

/-- What one scan writes at verbosity `v`, with its last words in colour or not, and how it ends. -/
def transcriptAt (g : Log.Logger) (fs : FileSystem) (ctx : Context) (r : ScanRequest) (v : Int)
    (colour : Bool := false) : Transcript :=
  transcript g (r.run fs (ctx.withVerbosity v)) colour

/-- At all verbosities a scan in the default format writes about the same fixtures: those of the
paths that are not skipped if it ends well, and else none. -/
theorem exists_fixtures_at_all_verbosities (g : Log.Logger) (fs : FileSystem) (ctx : Context)
    (r : ScanRequest) :
    ∃ fixtures,
      ((transcriptAt g fs ctx r 0).ending = .exited 0 →
        ∃ s, (Settings.load fs r.settings? fs.workingDirectory).outcome = .ok s ∧
          List.Forall₂ (ReadFrom fs s.catalogInUse r)
            (r.paths.filter fun p => !decide (r.Skips s.catalogInUse p)) fixtures) ∧
      ((transcriptAt g fs ctx r 0).ending ≠ .exited 0 → fixtures = []) ∧
      ∀ v, (transcriptAt g fs ctx { r with format := .default } v).output =
        outputText (ctx.withVerbosity v) { r with format := .default } fixtures := by
  -- a scan that does not end well writes nothing, which is the text about no fixtures
  by_cases hend : (transcriptAt g fs ctx r 0).ending = .exited 0
  · obtain ⟨s, fixtures, hload, hfixtures, hall⟩ := exists_fixtures_in_all_contexts g hend
    exact ⟨fixtures, fun _ => ⟨s, hload, hfixtures⟩, fun hne => absurd hend hne,
      fun v => (hall _ .default).2⟩
  · refine ⟨[], fun h => absurd h hend, fun _ => rfl, fun v => ?_⟩
    rcases outcome_eq_ok_or_silent fs (ctx.withVerbosity v) { r with format := .default } with
      hok | hsilent
    · -- a scan that ends well in this format does so in the one that is asked for
      obtain ⟨s, fixtures, -, -, hall⟩ :=
        exists_fixtures_in_all_contexts g (congrArg endingOf hok)
      exact absurd (hall (ctx.withVerbosity 0) r.format).1 hend
    · exact hsilent

/-- Verbosity changes nothing about a scan but what it reports. It ends alike at all verbosities,
and writes the same JSON. In the default format it writes about the same fixtures: for each its
table, and, if more is asked for than usual and the table is empty, that there are no pragmas;
without colour this is one line, from which the console takes control sequences as from any other.
To the stream of errors a quiet run writes what the usual one does but for its warnings, which are
about the skipped paths. -/
theorem verbosity_changes_reports_only (g : Log.Logger) (fs : FileSystem) (ctx : Context)
    (r : ScanRequest) :
    (∀ v w, (transcriptAt g fs ctx r v).ending = (transcriptAt g fs ctx r w).ending) ∧
    (∀ v w, (transcriptAt g fs ctx { r with format := .json } v).output =
      (transcriptAt g fs ctx { r with format := .json } w).output) ∧
    (∃ fixtures,
      ((transcriptAt g fs ctx r 0).ending = .exited 0 →
        ∃ s, (Settings.load fs r.settings? fs.workingDirectory).outcome = .ok s ∧
          List.Forall₂ (ReadFrom fs s.catalogInUse r)
            (r.paths.filter fun p => !decide (r.Skips s.catalogInUse p)) fixtures) ∧
      ((transcriptAt g fs ctx r 0).ending ≠ .exited 0 → fixtures = []) ∧
      (∀ v ≤ 0, (transcriptAt g fs ctx { r with format := .default } v).output =
        fixtures.flatMap (tableText ctx.console)) ∧
      ∀ v > 0, (transcriptAt g fs ctx { r with format := .default } v).output =
        fixtures.flatMap fun f =>
          (if f.table.isEmpty then noPragmasText ctx.console f else []) ++
            tableText ctx.console f) ∧
    (∀ f, ctx.console.colour = false →
      noPragmasText ctx.console f = strip (pathText f ++ ": no pragmas").toList ++ ['\n'] ∧
      (escape ∉ (pathText f).toList →
        noPragmasText ctx.console f = (pathText f ++ ": no pragmas").toList ++ ['\n'])) ∧
    (∀ colour, ∀ v < 0, (transcriptAt g fs ctx r v colour).errors =
      ((r.run fs (ctx.withVerbosity 0)).entries.filter fun ev => !ev.isWarning).flatMap
          (Event.errors g) ++
        lastWords (r.run fs (ctx.withVerbosity 0)).outcome colour) ∧
    (∀ s, (Settings.load fs r.settings? fs.workingDirectory).outcome = .ok s →
      (r.run fs (ctx.withVerbosity 0)).entries.filter Event.isWarning =
        ((r.paths.takeWhile (goesOn fs s.catalogInUse r)).filter fun p =>
          decide (r.Skips s.catalogInUse p)).map (skipWarning ctx.console)) ∧
    ∀ colour, ∀ v ≥ 0, (transcriptAt g fs ctx r v colour).errors =
      (transcriptAt g fs ctx r 0 colour).errors := by
  obtain ⟨fixtures, hread, hnone, hout⟩ := exists_fixtures_at_all_verbosities g fs ctx r
  refine ⟨fun v w => congrArg endingOf (outcome_withVerbosity fs ctx r v w), fun v w => ?_,
    ⟨fixtures, hread, hnone, fun v hv => ?_, fun v hv => ?_⟩,
    fun f hcolour => ⟨noPragmasText_plain hcolour f, noPragmasText_of_not_mem hcolour⟩,
    fun colour v hv => ?_, fun s hs => ?_, fun colour v hv => ?_⟩
  · have halike : Journal.Alike Event.output Event.output
        (run fs (ctx.withVerbosity v) { r with format := .json })
        (run fs (ctx.withVerbosity w) { r with format := .json }) :=
      run_alike fs (fun _ => rfl) (fun _ => by split <;> split <;> rfl) fun _ => rfl
    exact halike.view
  · rw [hout, outputText_withVerbosity]
    refine List.flatMap_congr fun f _ => ?_
    rw [if_neg (by omega), List.nil_append]
  · rw [hout, outputText_withVerbosity]
    simp only [hv, and_true]
  · rw [transcriptAt, transcript, entries_of_quiet fs ctx r hv,
      outcome_withVerbosity fs ctx r v 0]
  · have husual : 0 ≤ (ctx.withVerbosity 0).verbosity := Int.le_refl 0
    refine filter_isWarning_run husual ?_
    rw [outcome_loadSettings, hs]
    rfl
  · rw [transcriptAt, transcriptAt, transcript, transcript,
      errors_of_not_quiet g fs ctx r hv (Int.le_refl 0), outcome_withVerbosity fs ctx r v 0]

/-- A fixture without pragmas whose path has a control sequence in it. -/
def redPath : FileSystem :=
  .ofProbes ⟨.single, ["w"]⟩ [⟨⟨.relative, ["a\x1b[31m.py"]⟩, .ok (encode "x\n".toList)⟩]

/-- The request to scan this fixture. -/
def redPathRequest : ScanRequest := { paths := [.ofString "a\x1b[31m.py"], openers := ["#"] }

/-- Without colour the line about a fixture without pragmas does not have its path as it is, but
without its control sequence. -/
theorem transcriptAt_redPath :
    (transcriptAt .initial redPath plain redPathRequest 0).output = [] ∧
    (transcriptAt .initial redPath plain redPathRequest 1).ending = .exited 0 ∧
    (transcriptAt .initial redPath plain redPathRequest 1).output =
      "a.py: no pragmas\n".toList ∧
    (transcriptAt .initial redPath plain redPathRequest 1).output ≠
      redPathRequest.paths.flatMap fun p => (p.toString ++ ": no pragmas\n").toList := by
  decide +kernel

end ScanRequest

end FixturePragmas.CommandLine
