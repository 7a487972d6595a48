import FixturePragmas.Proofs.CommandLine.Scan
import FixturePragmas.Proofs.Json.Ascii
import Mathlib.Data.List.Pairwise
import Mathlib.Data.Nat.Digits.Lemmas

/-!
# What the JSON output of a scan says

The JSON of fixtures has integers for numbers only, so a decoder reads from the output what was put
into it, on a console in colour and on one without (`shown_render`). The lines of a fixture stand in
it in increasing order, whatever the order in which they came into its table; so the text for a
fixture depends on no more than its pragmas by line, and tells all that they declare
(`Fixture.render_toJson_eq_iff`).
-/

namespace FixturePragmas

/-! ### Numbers of lines -/

namespace Text.Numeral

theorem digits_eq_toDigits (n : Nat) : digits n = Nat.toDigits 10 n := by
  induction n using Nat.strongRecOn with
  | ind n ih =>
    rw [digits, Nat.toDigits_eq_if (by decide)]
    split
    · rfl
    · next h => rw [ih (n / 10) (by omega)]

theorem ofList_ofInt (n : Int) : String.ofList (ofInt n) = toString n := by
  cases n with
  | ofNat n =>
    show String.ofList (digits n) = n.repr
    rw [Nat.repr_eq_ofList_toDigits, digits_eq_toDigits]
  | negSucc n =>
    show String.ofList ('-' :: digits (n + 1)) = "-" ++ (n + 1).repr
    rw [Nat.repr_eq_ofList_toDigits, digits_eq_toDigits, ← List.singleton_append,
      String.ofList_append]

theorem ofInt_injective {n m : Int} (h : ofInt n = ofInt m) : n = m := by
  have hread := (Json.number?_ofInt n).symm.trans (h ▸ Json.number?_ofInt m)
  exact Json.integer.inj (Option.some.inj hread)

end Text.Numeral

/-! ### Tables by line -/

namespace Table

theorem mem_inOrder_iff {t : Table} {n : Int} {p : Pragma} :
    (n, p) ∈ t.inOrder ↔ t.get? n = some p := by
  rw [Dict.get?_eq_some_iff, inOrder, (List.mergeSort_perm _ _).mem_iff]
  rfl

theorem pairwise_inOrder (t : Table) : t.inOrder.Pairwise fun a b => a.1 < b.1 :=
  Dict.pairwise_lt_mergeSort (fun _ _ => decide_eq_true_iff) t.nodup

end Table

/-! ### JSON of pragmas and fixtures -/

theorem Issue.toJson_injective {i j : Issue} (h : i.toJson = j.toJson) : i = j := by
  obtain ⟨m, c⟩ := i
  obtain ⟨m', c'⟩ := j
  simp only [toJson, Json.object.injEq, List.cons.injEq, Prod.mk.injEq, Json.integer.injEq,
    Json.string.injEq, true_and, and_true] at h
  rw [h.1, h.2]

namespace Fixture

/-- What a fixture declares, line by line. -/
def lines (f : Fixture) : List (Int × List Declaration) :=
  f.inOrder.map fun e => (e.1, e.2.declarations)

/-- What is declared for one line, in JSON. -/
def lineToJson (e : Int × List Declaration) : String × Json :=
  (toString e.1, .object (e.2.map fun d =>
    (d.code, .array (d.issues.map fun i =>
      .object [("column", .integer i.column), ("message", .string i.message)]))))

theorem toJson_eq (f : Fixture) : f.toJson = .object (f.lines.map lineToJson) := by
  rw [toJson, lines, List.map_map]
  refine congrArg Json.object (List.map_congr_left fun e _ => ?_)
  rw [Text.Numeral.ofList_ofInt]
  rfl

theorem lineToJson_injective : Function.Injective lineToJson := by
  have hissue : Function.Injective Issue.toJson := fun _ _ => Issue.toJson_injective
  have hdeclaration : Function.Injective fun d : Declaration =>
      (d.code, Json.array (d.issues.map Issue.toJson)) := by
    rintro ⟨code, issues⟩ ⟨code', issues'⟩ h
    rw [Prod.mk.injEq, Json.array.injEq] at h
    exact congr (congrArg Declaration.mk h.1) (List.map_injective_iff.mpr hissue h.2)
  rintro ⟨n, ds⟩ ⟨m, ds'⟩ h
  have hkey : toString n = toString m := congrArg Prod.fst h
  have hvalue : ds.map _ = ds'.map _ := Json.object.inj (congrArg Prod.snd h)
  rw [← Text.Numeral.ofList_ofInt, ← Text.Numeral.ofList_ofInt] at hkey
  rw [Text.Numeral.ofInt_injective (String.ofList_injective hkey),
    List.map_injective_iff.mpr hdeclaration hvalue]

theorem isExact_toJson (f : Fixture) : f.toJson.isExact = true := by
  refine Json.membersAreExact_iff.mpr fun m hm => ?_
  obtain ⟨e, -, rfl⟩ := List.mem_map.mp hm
  refine Json.membersAreExact_iff.mpr fun m' hm' => ?_
  obtain ⟨d, -, rfl⟩ := List.mem_map.mp hm'
  refine Json.areExact_iff.mpr fun v hv => ?_
  obtain ⟨i, -, rfl⟩ := List.mem_map.mp hv
  rfl

theorem mem_lines_iff {f : Fixture} {n : Int} {ds : List Declaration} :
    (n, ds) ∈ f.lines ↔ (f.at? n).map Pragma.declarations = some ds := by
  rw [lines, List.mem_map, Option.map_eq_some_iff]
  constructor
  · rintro ⟨⟨m, p⟩, hp, heq⟩
    obtain ⟨rfl, rfl⟩ := Prod.mk.inj heq
    exact ⟨p, Table.mem_inOrder_iff.mp hp, rfl⟩
  · rintro ⟨p, hp, rfl⟩
    exact ⟨(n, p), Table.mem_inOrder_iff.mpr hp, rfl⟩

theorem pairwise_lines (f : Fixture) : f.lines.Pairwise fun a b => a.1 < b.1 :=
  List.pairwise_map.mpr f.table.pairwise_inOrder

/-- The lines of a fixture are those of its map from lines to pragmas, in increasing order. -/
theorem lines_eq_iff {f f' : Fixture} :
    f.lines = f'.lines ↔
      ∀ n, (f.at? n).map Pragma.declarations = (f'.at? n).map Pragma.declarations := by
  constructor
  · intro h n
    refine Option.ext fun ds => ?_
    rw [← mem_lines_iff, h, mem_lines_iff]
  · intro h
    have : Std.Irrefl fun a b : Int × List Declaration => a.1 < b.1 := ⟨fun a => lt_irrefl a.1⟩
    have : Std.Antisymm fun a b : Int × List Declaration => a.1 < b.1 :=
      ⟨fun a b hab hba => absurd hab (lt_asymm hba)⟩
    refine f.pairwise_lines.eq_of_mem_iff f'.pairwise_lines fun e => ?_
    show (e.1, e.2) ∈ f.lines ↔ (e.1, e.2) ∈ f'.lines
    rw [mem_lines_iff, mem_lines_iff, h]

/-- Two fixtures are printed to the same JSON exactly if they declare the same for each line. -/
theorem render_toJson_eq_iff {f f' : Fixture} (s : Json.Style) :
    f.toJson.render s = f'.toJson.render s ↔
      ∀ n, (f.at? n).map Pragma.declarations = (f'.at? n).map Pragma.declarations := by
  rw [← lines_eq_iff]
  constructor
  · intro h
    have hjson := Json.renderAt_injective s f.isExact_toJson f'.isExact_toJson
      (String.ofList_injective h)
    rw [toJson_eq, toJson_eq] at hjson
    exact List.map_injective_iff.mpr lineToJson_injective (Json.object.inj hjson)
  · intro h
    rw [toJson_eq, toJson_eq, h]

end Fixture

/-! ### The output -/

namespace CommandLine.ScanRequest

open Terminal (Console)

theorem isExact_jsonOf (fs : List Fixture) : (jsonOf fs).isExact = true := by
  rw [jsonOf_eq]
  refine Json.membersAreExact_iff.mpr fun m hm => ?_
  obtain ⟨t, -, ht⟩ := List.mem_filterMap.mp hm
  obtain ⟨f, -, rfl⟩ := Option.map_eq_some_iff.mp ht
  exact f.isExact_toJson

/-- A printed value with a line end behind it is shown alike with and without colour. -/
theorem shown_render (c : Console) (s : Json.Style) {v : Json} (hv : v.isExact = true) :
    c.shown ((v.render s).toList ++ ['\n']) = Json.renderAt s 0 v ++ ['\n'] := by
  rw [Json.render, String.toList_ofList, Console.shown]
  split
  · rfl
  · exact Json.strip_renderAt_append s 0 hv (by decide)

/-- The JSON output of a scan is decoded to one member for each path, in the order in which the
paths first come, and in it to one for each line of the table, in increasing order, and in it to one
for each code in the order of the declarations, with the issues as they are. The text for a fixture
is the same for two tables that declare the same for each line, and for no others. -/
theorem decode_output_json :
    (∀ (ctx : Context) (r : ScanRequest) (fs : List Fixture),
      Json.decode (Terminal.Stream.output.collect (output ctx { r with format := .json } fs)) =
        some (.object ((fs.map pathText).eraseDups.filterMap fun t =>
          (fs.reverse.find? fun f => pathText f = t).map fun f =>
            (t, .object (f.inOrder.map fun e =>
              (toString e.1, .object (e.2.declarations.map fun d =>
                (d.code, .array (d.issues.map fun i =>
                  .object [("column", .integer i.column), ("message", .string i.message)]))))))))) ∧
      (∀ f : Fixture, (f.inOrder.Pairwise fun a b => a.1 < b.1) ∧
        ∀ n p, (n, p) ∈ f.inOrder ↔ f.at? n = some p) ∧
      ∀ f f' : Fixture, f.toJson.render .indented = f'.toJson.render .indented ↔
        ∀ n, (f.at? n).map Pragma.declarations = (f'.at? n).map Pragma.declarations := by
  refine ⟨fun ctx r fs => ?_, fun f => ⟨f.table.pairwise_inOrder, fun n p => Table.mem_inOrder_iff⟩,
    fun f f' => Fixture.render_toJson_eq_iff .indented⟩
  have hcollect : Terminal.Stream.output.collect (output ctx { r with format := .json } fs) =
      Json.renderAt .indented 0 (jsonOf fs) ++ ['\n'] := by
    rw [← shown_render ctx.console .indented (isExact_jsonOf fs)]
    exact List.append_nil _
  rw [hcollect, Json.decode_renderAt .indented (isExact_jsonOf fs) (by decide), jsonOf_eq,
    membersOf]
  simp only [Fixture.toJson_eq, Fixture.lines, List.map_map]
  rfl

end CommandLine.ScanRequest

end FixturePragmas
