import FixturePragmas.Proofs.Dialect.Overlay
import FixturePragmas.Proofs.Settings.Acceptance

/-!
# Settings beside the built-in dialects

Settings leave the built-in dialects where they are: those that they declare again are replaced in
their places, and the new ones follow in the order in which they are declared. A new dialect is
unlike all built-in ones, since it has a name of its own (`Settings.not_mem_values_builtIn`), so a
path goes elsewhere exactly if a new dialect takes it over (`Settings.catalogInUse_extends`).
-/

namespace FixturePragmas.Settings

open Catalog (TakenOver longestFit)

variable {source? : Option Path} {t : Toml.Table} {s : Settings}

/-- New names come with new dialects, since each dialect is called by its name. -/
theorem not_mem_values_builtIn (h : (ofTable source? t).outcome = .ok s)
    (hnew : ∀ name ∈ s.dialects.keys, name ∉ Catalog.builtIn.keys) :
    ∀ d ∈ s.dialects.values, d ∉ Catalog.builtIn.values := by
  have hnodup : s.catalogInUse.values.Nodup := by
    refine List.Nodup.of_map (fun d => (d.name, d)) ?_
    rw [map_values_catalogInUse h]
    exact s.catalogInUse.nodup.of_map Prod.fst
  rw [catalogInUse, Catalog.effective, Dict.values_update_of_new hnew, List.nodup_append] at hnodup
  exact fun d hd hbuiltIn => hnodup.2.2 d hbuiltIn d hd rfl

/-- The dialects in use are the built-in ones, with those replaced that the settings declare again,
and behind them the new ones in the order in which they are declared. If all are new, a path goes to
another dialect than before exactly if one of them takes it over, and then it goes to this one;
extensions that are no longer than the built-in ones that fit take nothing over. -/
theorem catalogInUse_extends (h : (ofTable source? t).outcome = .ok s) :
    s.dialects.keys = ((entriesIn t).map Prod.fst).eraseDups ∧
      s.catalogInUse.entries =
        (Catalog.builtIn.entries.map fun e => (e.1, (s.dialects.get? e.1).getD e.2)) ++
          s.dialects.entries.filter (fun e => e.1 ∉ Catalog.builtIn.keys) ∧
      ((∀ name ∈ s.dialects.keys, name ∉ Catalog.builtIn.keys) → ∀ path : Path,
        (s.catalogInUse.resolve? path ≠ Catalog.builtIn.resolve? path ↔
          ∃ d, TakenOver path Catalog.builtIn.values s.dialects.values d) ∧
        (∀ d, TakenOver path Catalog.builtIn.values s.dialects.values d →
          s.catalogInUse.resolve? path = some d) ∧
        ((∀ d ∈ s.dialects.values, path.name ∉ d.fileNames ∧
            ∀ e ∈ d.extensions, Dialect.endsIn path.name e = true →
              e.length ≤ longestFit path.name Catalog.builtIn.values) →
          s.catalogInUse.resolve? path = Catalog.builtIn.resolve? path)) := by
  refine ⟨keys_catalog (ofTable_eq_ok h), Dict.entries_update _ _, fun hnew path => ?_⟩
  have hvalues : s.catalogInUse.values = Catalog.builtIn.values ++ s.dialects.values :=
    Dict.values_update_of_new hnew
  refine ⟨?_, fun d hd => Catalog.resolve?_of_takenOver hvalues hd, fun hequal => ?_⟩
  · exact Catalog.resolve?_ne_iff hvalues (not_mem_values_builtIn h hnew) path
  · refine Catalog.resolve?_of_not_takenOver hvalues fun d hd => ?_
    cases hd with
    | byName _ hfirst =>
      have hlists := List.find?_some hfirst
      exact (hequal d (List.mem_of_find?_eq_some hfirst)).1 (of_decide_eq_true hlists)
    | byExtension _ hlonger _ =>
      obtain ⟨d', hd', e, he, hends, hlt⟩ := hlonger
      exact Nat.not_le_of_lt hlt ((hequal d' hd').2 e he hends)

/-- Settings with three new dialects: one for a file by its name, one with an extension that is
longer than a built-in one that fits, and one with an extension that is built in. -/
def newDialects : Toml.Table :=
  [("dialects", .table [
    ("lock", .table [(openersKey, .array [.string ";"]),
      (fileNamesKey, .array [.string "lock.py"])]),
    ("tests", .table [(openersKey, .array [.string "//"]),
      (extensionsKey, .array [.string ".test.d.ts"])]),
    ("stubs", .table [(openersKey, .array [.string "--"]),
      (extensionsKey, .array [.string ".PY"])])])]

/-- Two of these take paths over, and the third takes none. -/
theorem catalogInUse_extends_newDialects : ∃ s, (ofTable none newDialects).outcome = .ok s ∧
    (∀ name ∈ s.dialects.keys, name ∉ Catalog.builtIn.keys) ∧
    s.dialects.keys = ["lock", "tests", "stubs"] ∧
    s.catalogInUse.resolve? (.ofString "a/lock.py") ≠
      Catalog.builtIn.resolve? (.ofString "a/lock.py") ∧
    (∃ d, TakenOver (.ofString "x.test.D.TS") Catalog.builtIn.values s.dialects.values d) ∧
    s.catalogInUse.resolve? (.ofString "a.py") = Catalog.builtIn.resolve? (.ofString "a.py") := by
  obtain ⟨s, hs⟩ := Steps.exists_of_isOk
    (by decide +kernel : (ofTable none newDialects).outcome.isOk = true)
  have hfacts : (ofTable none newDialects).outcome.map (fun s => decide (
      (∀ name ∈ s.dialects.keys, name ∉ Catalog.builtIn.keys) ∧
      ((∀ d ∈ Catalog.builtIn.values, (Path.ofString "a/lock.py").name ∉ d.fileNames) ∧
        (s.dialects.values.find? fun d => (Path.ofString "a/lock.py").name ∈ d.fileNames).isSome) ∧
      s.catalogInUse.resolve? (.ofString "x.test.D.TS") ≠
        Catalog.builtIn.resolve? (.ofString "x.test.D.TS") ∧
      ∀ d ∈ s.dialects.values, (Path.ofString "a.py").name ∉ d.fileNames ∧
        ∀ e ∈ d.extensions, Dialect.endsIn (Path.ofString "a.py").name e = true →
          e.length ≤ longestFit (Path.ofString "a.py").name Catalog.builtIn.values)) =
        .ok true := by
    decide +kernel
  rw [hs] at hfacts
  obtain ⟨hnew, ⟨hold, hlisted⟩, htaken, hequal⟩ := of_decide_eq_true (Except.ok.inj hfacts)
  obtain ⟨d, hfirst⟩ := Option.isSome_iff_exists.mp hlisted
  obtain ⟨hkeys, -, hpaths⟩ := catalogInUse_extends hs
  refine ⟨s, hs, hnew, hkeys, ?_, ?_, (hpaths hnew _).2.2 hequal⟩
  · exact (hpaths hnew _).1.mpr ⟨d, .byName hold hfirst⟩
  · exact (hpaths hnew _).1.mp htaken

end FixturePragmas.Settings
