import FixturePragmas.Proofs.CommandLine.Json
import FixturePragmas.Proofs.Declaration.Characters
import FixturePragmas.Proofs.Path
import FixturePragmas.Proofs.Scan.Regular
import FixturePragmas.Proofs.Terminal

/-!
# The two formats of a scan side by side

A scan that ends well in one format does so in the other, about the same fixtures
(`exists_fixtures_in_all_contexts`). On a console without colour the default format has one line for
each line of each table: the place, and the pragma without control sequences (`outputText_default`).
A message may hold such sequences, and JSON keeps them. So what is read back from the default format
is what JSON says for those pragmas in whose text there is no control sequence, and for no others
(`formats_agree`).
-/

namespace FixturePragmas

open Terminal (escape strip)
open Text.Utf8 (encode)

/-! ### Declarations on a console without colour -/

/-- Declarations are read back from what is left of their text without control sequences if and only
if there are none in it. -/
theorem Declaration.ofComment_strip_renderAll_iff {ds : List Declaration}
    (h : ∀ d ∈ ds, d.Writable) :
    ofComment (strip (renderAll ds)) = .ok ds ↔ strip (renderAll ds) = renderAll ds := by
  constructor
  · intro hread
    -- what is read back has no more escapes than the text, so none was taken out of it
    rw [Terminal.strip_eq_self_iff, count_renderAll (by decide)]
    exact (chars_sublist_of_ofComment hread).count_le escape
  · intro hsame
    rw [hsame]
    show ofComment ([] ++ renderAll ds) = .ok ds
    exact ofComment_renderAll List.not_mem_nil h

namespace CommandLine

/-! ### Runs that end well -/

/-- A run that ends with the code for success ended well, or after help was asked for. -/
theorem endingOf_eq_exitSuccess {x : Except Stop Unit} (h : endingOf x = .exited 0)
    (hhelp : Steps.FailsAs (· ≠ .helped) x) : x = .ok () := by
  rcases x with (_ | _ | f | _) | _
  · exact absurd rfl (hhelp _ rfl)
  · cases h
  -- every kind of failure has a code of its own, none of them zero
  · obtain ⟨kind, message⟩ := f
    cases kind <;> cases h
  · cases h
  · rfl

namespace ScanRequest

variable {fs : FileSystem} {ctx : Context} {c : Catalog} {r : ScanRequest} {p : Path}

theorem outcomeAt_ne_helped (p : Path) (x : Except Fixture.Failure Fixture) :
    Steps.FailsAs (· ≠ .helped) (outcomeAt p x) := by
  rcases x with (_ | _ | _ | _) | f
  · exact .ok _
  · exact .error nofun
  · exact .error nofun
  · exact .error nofun
  · exact .ok _

/-- A scan does not stop because of help. -/
theorem run_ne_helped (fs : FileSystem) (ctx : Context) (r : ScanRequest) :
    Steps.FailsAs (· ≠ .helped) (r.run fs ctx).outcome := by
  rw [run_eq, Journal.outcome_bind, outcome_loadSettings]
  refine .bind (.mapError fun fault _ => by cases fault <;> exact nofun) fun settings _ => ?_
  rw [Journal.outcome_bind, outcome_scanAll]
  refine .bind (.mapM (fun p => outcomeAt_ne_helped p _) r.paths) fun os _ => ?_
  unfold finish
  split
  · exact .error nofun
  · exact .ok ()

/-- A path with an outcome that was not skipped gave the fixture of the text in its file. -/
theorem gives_of_outcomeAt {o : Outcome} (hskip : ¬r.Skips c p)
    (h : outcomeAt p (Fixture.ofFile fs c r.openers? p).outcome = .ok o) : Gives fs c r p := by
  obtain ⟨openers, hopeners⟩ := exists_openersUnder hskip
  cases hread : fs.read p with
  | error e =>
    rw [Fixture.outcome_ofFile_of_open_error hopeners hread] at h
    cases e <;> cases h
  | ok bs =>
    -- of the ways in which reading can end, only a text that scans gives an outcome
    by_cases hbs : ∃ cs, bs = encode cs
    · obtain ⟨cs, rfl⟩ := hbs
      have hfile := Fixture.outcome_ofFile_of_text hopeners hread
      cases hscan : scan openers (Fixture.content cs) with
      | error e =>
        rw [hfile, hscan] at h
        cases h
      | ok t =>
        rw [hscan] at hfile
        exact ⟨_, hfile, rfl, cs, openers, FileSystem.bytes_of_read hread, hopeners, hscan⟩
    · rw [not_exists] at hbs
      obtain ⟨m, hm⟩ := Fixture.outcome_ofFile_of_not_encode hopeners hread hbs
      rw [hm] at h
      cases h

/-- A scan that ends well in one format and context ends well in all, and has then written about the
same fixtures. -/
theorem exists_fixtures_in_all_contexts (g : Log.Logger)
    (h : (transcript g (r.run fs ctx)).ending = .exited 0) :
    ∃ s fixtures, (Settings.load fs r.settings? fs.workingDirectory).outcome = .ok s ∧
      List.Forall₂ (ReadFrom fs s.catalogInUse r)
        (r.paths.filter fun p => !decide (r.Skips s.catalogInUse p)) fixtures ∧
      ∀ ctx' format, (transcript g (run fs ctx' { r with format })).ending = .exited 0 ∧
        (transcript g (run fs ctx' { r with format })).output =
          outputText ctx' { r with format } fixtures := by
  have hok : (r.run fs ctx).outcome = .ok () := endingOf_eq_exitSuccess h (run_ne_helped fs ctx r)
  rw [run_eq, Journal.outcome_bind, Steps.bind_eq_ok_iff] at hok
  obtain ⟨s, hload, hok⟩ := hok
  rw [Journal.outcome_bind, Steps.bind_eq_ok_iff] at hok
  obtain ⟨os, hscan, hfinish⟩ := hok
  rw [outcome_scanAll] at hscan
  -- the scan got through all paths, so each of them was skipped or gave a fixture
  have hsteps := Steps.exists_of_mapM_eq_ok hscan
  obtain ⟨os', hos', hfixtures, -⟩ := exists_outcomes fun p hp hskip =>
    (hsteps p hp).elim fun _ ho => gives_of_outcomeAt hskip ho
  obtain rfl : os = os' := Except.ok.inj (hscan.symm.trans hos')
  -- neither context nor format decides whether the run fails for want of a fixture
  have hsome : ¬(fixtures os = [] ∧ skippedPaths os ≠ []) := by
    intro hnone
    rw [finish, if_pos hnone] at hfinish
    cases hfinish
  refine ⟨s, fixtures os, ?_, hfixtures, fun ctx' format => ?_⟩
  · rw [outcome_loadSettings] at hload
    exact Text.Utf8.mapError_eq_ok_iff.mp hload
  · obtain ⟨hend, hout⟩ := run_of_scanned (r := { r with format }) hload ctx'
      ((outcome_scanAll fs ctx' _ r r.paths).trans hscan)
    rw [finish, if_neg hsome] at hend hout
    refine ⟨congrArg endingOf hend, hout.trans ?_⟩
    rw [← output_eq, Journal.writeAll, List.flatMap_map]

theorem exists_fixtures_of_exit (g : Log.Logger)
    (h : (transcript g (r.run fs ctx)).ending = .exited 0) :
    ∃ s fixtures, (Settings.load fs r.settings? fs.workingDirectory).outcome = .ok s ∧
      List.Forall₂ (ReadFrom fs s.catalogInUse r)
        (r.paths.filter fun p => !decide (r.Skips s.catalogInUse p)) fixtures ∧
      ∀ format, (transcript g (run fs ctx { r with format })).ending = .exited 0 ∧
        (transcript g (run fs ctx { r with format })).output =
          outputText ctx { r with format } fixtures := by
  obtain ⟨s, fixtures, hload, hfixtures, hall⟩ := exists_fixtures_in_all_contexts g h
  exact ⟨s, fixtures, hload, hfixtures, hall ctx⟩

/-! ### The default format without colour -/

/-- The place of a pragma as it is written in front of it. -/
def placeText (f : Fixture) (n : Int) : List Char :=
  (pathText f ++ ":" ++ toString n ++ ": ").toList

theorem placeText_eq (f : Fixture) (n : Int) :
    placeText f n = (pathText f).toList ++ ':' :: Text.Numeral.ofInt n ++ [':', ' '] := by
  rw [placeText, ← Text.Numeral.ofList_ofInt]
  simp

/-- There is no control character in a place, unless there is one in the path. -/
theorem not_mem_placeText {c : Char} (hc : c.toNat < 0x20) {f : Fixture}
    (h : c ∉ (pathText f).toList) (n : Int) : c ∉ placeText f n := by
  have hnumber : c ∉ Text.Numeral.ofInt n :=
    List.count_eq_zero.mp (Text.Numeral.count_ofInt hc n)
  have hsigns : c ∉ [':', ' '] := not_mem_of_control hc (by simp)
  simp only [List.mem_cons, List.not_mem_nil, or_false, not_or] at hsigns
  simp [placeText_eq, h, hnumber, hsigns]

theorem linesAbout_of_terse (h : ctx.verbosity ≤ 0) (f : Fixture) :
    linesAbout ctx f = f.inOrder.map fun e => pragmaLine ctx.console f e.1 e.2 := by
  unfold linesAbout
  split
  · next hempty => rw [Fixture.inOrder_of_isEmpty hempty, if_neg (by omega), List.map_nil]
  · rfl

/-- Control sequences are taken out of the pragma only, and the place and the line end stay. -/
theorem shown_pragmaLine (hcolour : ctx.console.colour = false) {f : Fixture}
    (hescape : escape ∉ (pathText f).toList) (n : Int) (p : Pragma) :
    ctx.console.shown (pragmaLine ctx.console f n p ++ ['\n']) =
      placeText f n ++ strip p.render ++ ['\n'] := by
  have hline : pragmaLine ctx.console f n p ++ ['\n'] = placeText f n ++ (p.render ++ ['\n']) := by
    rw [placeText_eq, pragmaLine, Terminal.Console.styled, hcolour]
    simp
  have hnone : escape ∉ placeText f n := not_mem_placeText (by decide) hescape n
  rw [hline, Terminal.Console.shown, hcolour, if_neg Bool.false_ne_true,
    Terminal.strip_append_of_not_mem hnone, Terminal.strip_append_newline, Terminal.strip_nil,
    List.append_assoc]

/-- The default output: one line for each line of each table. -/
theorem outputText_default (hcolour : ctx.console.colour = false) (hverbosity : ctx.verbosity ≤ 0)
    {fixtures : List Fixture} (hescape : ∀ f ∈ fixtures, escape ∉ (pathText f).toList) :
    outputText ctx { r with format := .default } fixtures =
      fixtures.flatMap fun f => f.inOrder.flatMap fun e =>
        placeText f e.1 ++ strip e.2.render ++ ['\n'] := by
  refine List.flatMap_congr fun f hf => ?_
  rw [linesAbout_of_terse hverbosity, List.flatMap_map]
  exact List.flatMap_congr fun e _ => shown_pragmaLine hcolour (hescape f hf) e.1 e.2

/-! ### The JSON format -/

/-- Fixtures that are read from one path are the same, line by line. -/
theorem ReadFrom.inOrder_eq {f f' : Fixture} (h : ReadFrom fs c r p f) (h' : ReadFrom fs c r p f') :
    f.inOrder = f'.inOrder := by
  obtain ⟨-, cs, openers, hbytes, hopeners, hscan⟩ := h
  obtain ⟨-, cs', openers', hbytes', hopeners', hscan'⟩ := h'
  -- the same bytes, hence the same text; the same openers; hence the same table
  obtain rfl := Text.Utf8.encode_injective (Except.ok.inj (hbytes.symm.trans hbytes'))
  obtain rfl := Option.some.inj (hopeners.symm.trans hopeners')
  rw [Fixture.inOrder, Fixture.inOrder, Except.ok.inj (hscan.symm.trans hscan')]

theorem keys_membersOf (fixtures : List Fixture) :
    (membersOf fixtures).map Prod.fst = (fixtures.map pathText).eraseDups := by
  have hjson := jsonOf_eq fixtures
  rw [jsonOf, Json.object.injEq] at hjson
  rw [← hjson]
  show Dict.keys _ = _
  rw [Dict.keys_ofList, List.map_map]
  rfl

/-- A fixture stands under its path, if fixtures of one path are alike. -/
theorem mem_membersOf {fixtures : List Fixture} {f : Fixture} (hf : f ∈ fixtures)
    (halike : ∀ f' ∈ fixtures, pathText f' = pathText f → f'.toJson = f.toJson) :
    (pathText f, f.toJson) ∈ membersOf fixtures := by
  refine List.mem_filterMap.mpr ⟨pathText f, ?_, ?_⟩
  · exact List.mem_eraseDups.mpr (List.mem_map_of_mem hf)
  -- the last fixture with this path stands there, and it is like `f`
  · obtain ⟨f', hfind⟩ : ∃ f', fixtures.reverse.find? (fun f' => pathText f' = pathText f) =
        some f' := by
      rw [← Option.isSome_iff_exists, List.find?_isSome]
      exact ⟨f, List.mem_reverse.mpr hf, by simp⟩
    have hmem : f' ∈ fixtures := List.mem_reverse.mp (List.mem_of_find?_eq_some hfind)
    have hpath : pathText f' = pathText f := by simpa using List.find?_some hfind
    rw [hfind, Option.map_some, halike f' hmem hpath]

theorem decode_outputText_json (fixtures : List Fixture) :
    Json.decode (outputText ctx { r with format := .json } fixtures) =
      some (.object (membersOf fixtures)) := by
  have hexact : (Json.object (membersOf fixtures)).isExact = true := by
    rw [← jsonOf_eq]
    exact isExact_jsonOf fixtures
  show Json.decode (ctx.console.shown _) = _
  rw [shown_render ctx.console .indented hexact]
  exact Json.decode_renderAt .indented hexact (by decide)

/-! ### Both formats -/

theorem exists_readFrom {ps : List Path} {fixtures : List Fixture}
    (h : List.Forall₂ (ReadFrom fs c r) ps fixtures) {f : Fixture} (hf : f ∈ fixtures) :
    ∃ p ∈ ps, ReadFrom fs c r p f := by
  induction h with
  | nil => exact absurd hf List.not_mem_nil
  | @cons p f' ps fs' hread _ ih =>
    rcases List.mem_cons.mp hf with rfl | hf
    · exact ⟨p, List.mem_cons_self, hread⟩
    · obtain ⟨p', hp', hread'⟩ := ih hf
      exact ⟨p', List.mem_cons_of_mem p hp', hread'⟩

theorem ReadFrom.pathText_eq {f : Fixture} (h : ReadFrom fs c r p f) :
    pathText f = p.toString := by
  rw [pathText, h.1]
  rfl

/-- What is declared for a line can be written, and on one line. -/
theorem ReadFrom.writable {f : Fixture} (h : ReadFrom fs c r p f) {e : Int × Pragma}
    (he : e ∈ f.inOrder) :
    (∀ d ∈ e.2.declarations, d.Writable) ∧ '\n' ∉ e.2.render := by
  obtain ⟨-, cs, openers, -, -, hscan⟩ := h
  have hregular := Table.Regular.of_scan hscan
  have hmem : e ∈ f.table.entries := (List.mergeSort_perm _ _).mem_iff.mp he
  exact ⟨hregular.writable e hmem,
    Declaration.newline_not_mem_renderAll (hregular.writable e hmem) (hregular.oneLine e hmem)⟩

/-- What the two outputs of a scan say about fixtures: `text` is the default format without colour,
`json` the other one. -/
structure SideBySide (fixtures : List Fixture) (text json : List Char) : Prop where
  /-- The text has one line for each line of each table: its place, and its pragma without control
  sequences. -/
  text_eq : text = fixtures.flatMap fun f => f.inOrder.flatMap fun e =>
    placeText f e.1 ++ strip e.2.render ++ ['\n']
  oneLine : ∀ f ∈ fixtures, ∀ e ∈ f.inOrder, '\n' ∉ placeText f e.1 ++ strip e.2.render
  /-- The lines of a fixture are those of its table, in increasing order. -/
  ordered : ∀ f ∈ fixtures, (f.inOrder.Pairwise fun a b => a.1 < b.1) ∧
    ∀ n p, (n, p) ∈ f.inOrder ↔ f.at? n = some p
  /-- JSON has the same paths, and under each the same lines with what is declared for them. -/
  json_eq : ∃ ms, Json.decode json = some (.object ms) ∧
    ms.map Prod.fst = (fixtures.map pathText).eraseDups ∧
    ∀ f ∈ fixtures, (pathText f, .object (f.inOrder.map fun e =>
      (toString e.1, .object (e.2.declarations.map fun d =>
        (d.code, .array (d.issues.map fun i =>
          .object [("column", .integer i.column), ("message", .string i.message)])))))) ∈ ms
  /-- What stands behind a place is read back as what JSON has there if no control sequence was
  taken out of it, and else is not. -/
  readBack : ∀ f ∈ fixtures, ∀ e ∈ f.inOrder,
    (Declaration.ofComment (strip e.2.render) = .ok e.2.declarations ↔
      strip e.2.render = e.2.render)

/-- A path that was read from a text which can stand in front of a line of output. -/
def Printable (p : Path) : Prop :=
  (∃ s, p = .ofString s) ∧ '\n' ∉ p.toString.toList ∧ escape ∉ p.toString.toList

theorem sideBySide (hcolour : ctx.console.colour = false) (hverbosity : ctx.verbosity ≤ 0)
    {fixtures : List Fixture}
    (hread : ∀ f ∈ fixtures, ∃ p, Printable p ∧ ReadFrom fs c r p f) :
    SideBySide fixtures (outputText ctx { r with format := .default } fixtures)
      (outputText ctx { r with format := .json } fixtures) where
  text_eq := by
    refine outputText_default hcolour hverbosity fun f hf => ?_
    obtain ⟨p, hp, hread⟩ := hread f hf
    rw [hread.pathText_eq]
    exact hp.2.2
  oneLine := by
    intro f hf e he
    obtain ⟨p, hp, hread⟩ := hread f hf
    rw [List.mem_append, not_or]
    refine ⟨not_mem_placeText (by decide) ?_ e.1, fun hmem => ?_⟩
    · rw [hread.pathText_eq]
      exact hp.2.1
    · exact (hread.writable he).2 ((Terminal.strip_sublist _).mem hmem)
  ordered := fun f _ => ⟨f.table.pairwise_inOrder, fun n p => Table.mem_inOrder_iff⟩
  json_eq := by
    refine ⟨membersOf fixtures, decode_outputText_json fixtures, keys_membersOf fixtures,
      fun f hf => ?_⟩
    -- paths that print alike are the same, so they have the same table
    have halike : ∀ f' ∈ fixtures, pathText f' = pathText f → f'.toJson = f.toJson := by
      intro f' hf' htext
      obtain ⟨p, ⟨⟨t, rfl⟩, -⟩, hf⟩ := hread f hf
      obtain ⟨p', ⟨⟨t', rfl⟩, -⟩, hf'⟩ := hread f' hf'
      rw [hf.pathText_eq, hf'.pathText_eq] at htext
      rw [Path.toString_injective (Path.named_ofString t') (Path.named_ofString t) htext] at hf'
      rw [Fixture.toJson, Fixture.toJson, hf'.inOrder_eq hf]
    have hmem := mem_membersOf hf halike
    rw [Fixture.toJson_eq, Fixture.lines, List.map_map] at hmem
    exact hmem
  readBack := by
    intro f hf e he
    obtain ⟨p, -, hread⟩ := hread f hf
    exact Declaration.ofComment_strip_renderAll_iff (hread.writable he).1

/-- A scan that ends well without colour, and without more being asked for than usual, ends well in
JSON too, and the two outputs are about the same fixtures: those of the paths that are not skipped,
in their order. -/
theorem formats_agree (g : Log.Logger) (fs : FileSystem) (ctx : Context) (r : ScanRequest)
    (hcolour : ctx.console.colour = false) (hverbosity : ctx.verbosity ≤ 0)
    (hpaths : ∀ p ∈ r.paths, Printable p)
    (hexit : (transcript g (run fs ctx { r with format := .default })).ending = .exited 0) :
    (transcript g (run fs ctx { r with format := .json })).ending = .exited 0 ∧
    ∃ s fixtures, (Settings.load fs r.settings? fs.workingDirectory).outcome = .ok s ∧
      List.Forall₂ (ReadFrom fs s.catalogInUse r)
        (r.paths.filter fun p => !decide (r.Skips s.catalogInUse p)) fixtures ∧
      SideBySide fixtures (transcript g (run fs ctx { r with format := .default })).output
        (transcript g (run fs ctx { r with format := .json })).output := by
  obtain ⟨s, fixtures, hload, hfixtures, hformats⟩ := exists_fixtures_of_exit g hexit
  obtain ⟨-, hdefault⟩ := hformats .default
  obtain ⟨hend, hjson⟩ := hformats .json
  have hread : ∀ f ∈ fixtures, ∃ p, Printable p ∧ ReadFrom fs s.catalogInUse r p f := by
    intro f hf
    obtain ⟨p, hp, hread⟩ := exists_readFrom hfixtures hf
    exact ⟨p, hpaths p (List.mem_of_mem_filter hp), hread⟩
  refine ⟨hend, s, fixtures, hload, hfixtures, ?_⟩
  rw [hdefault, hjson]
  exact sideBySide hcolour hverbosity hread

/-- A fixture with a message in red. -/
def redMessage : FileSystem :=
  .ofProbes ⟨.single, ["w"]⟩
    [⟨⟨.relative, ["a.py"]⟩, .ok (encode "x #[A]: 3 \"\x1b[31mred\"\n".toList)⟩]

/-- A console without colour, and nothing said about verbosity. -/
def plain : Context := { console? := some ⟨false⟩ }

/-- The request to scan the fixture with a message in red. -/
def redRequest : ScanRequest := { paths := [.ofString "a.py"], openers := ["#"] }

theorem formats_agree_redMessage :
    (transcript .initial (run redMessage plain { redRequest with format := .json })).ending =
      .exited 0 ∧
    ∃ s fixtures, (Settings.load redMessage none redMessage.workingDirectory).outcome = .ok s ∧
      List.Forall₂ (ReadFrom redMessage s.catalogInUse redRequest)
        (redRequest.paths.filter fun p => !decide (redRequest.Skips s.catalogInUse p)) fixtures ∧
      SideBySide fixtures (transcript .initial (run redMessage plain redRequest)).output
        (transcript .initial
          (run redMessage plain { redRequest with format := .json })).output :=
  formats_agree .initial redMessage plain redRequest rfl (by decide)
    (List.forall_mem_singleton.mpr ⟨⟨"a.py", rfl⟩, by decide +kernel, by decide +kernel⟩)
    (by decide +kernel)

/-- Without colour the message is printed without its control sequence, and is read back as another
one; in JSON it is whole. -/
theorem run_redMessage :
    (transcript .initial (run redMessage plain redRequest)).ending = .exited 0 ∧
    (transcript .initial (run redMessage plain redRequest)).output =
      "a.py:1: [A]: 3 \"red\"\n".toList ∧
    Declaration.ofComment "[A]: 3 \"red\"".toList = .ok [⟨"A", [⟨"red", 3⟩]⟩] ∧
    Json.decode
        (transcript .initial (run redMessage plain { redRequest with format := .json })).output =
      some (.object [("a.py", .object [("1", .object [("A", .array [.object
        [("column", .integer 3), ("message", .string "\x1b[31mred")]])])])]) := by
  refine ⟨by decide +kernel, by decide +kernel, by decide +kernel, ?_⟩
  have htext :
      (transcript .initial (run redMessage plain { redRequest with format := .json })).output =
        Json.renderAt .indented 0 (.object [("a.py", .object [("1", .object [("A", .array [.object
          [("column", .integer 3), ("message", .string "\x1b[31mred")]])])])]) ++ ['\n'] := by
    decide +kernel
  rw [htext]
  exact Json.decode_renderAt .indented (by decide) (by decide)

end ScanRequest

end CommandLine

end FixturePragmas
