import FixturePragmas.Proofs.Settings.Openers

/-!
# Dialects written out as settings

A dialect that settings can give stands under its own name, and opens comments unless it is built in
(`Settings.Declarable`); all dialects in use after settings are accepted are of this kind. Such a
dialect can be declared again by a table that sets all its fields (`Settings.dialectOf_fieldsOf`), so
a whole catalog can be written out as settings. These are accepted, in whatever order the dialects
are written, and give every name the dialect it had (`Settings.get?_writtenOut`). Written in the
order of the catalog they give the catalog itself, since an ordered map that is written over the one
it came from leaves every key in its place (`Settings.effective_writtenOut`).
-/

namespace FixturePragmas

theorem Catalog.name_of_get?_builtIn {name : String} {d : Dialect}
    (h : builtIn.get? name = some d) : d.name = name := by
  have hall : ∀ e ∈ builtIn.entries, e.2.name = e.1 := by decide +kernel
  exact hall _ ((Dict.get?_eq_some_iff _ _ _).mp h)

namespace Settings

/-! ### Dialects that settings can give -/

/-- Whether settings can give the dialect under a name: it is called so, and opens comments unless
it is built in. -/
structure Declarable (name : String) (d : Dialect) : Prop where
  name_eq : d.name = name
  opens : Catalog.builtIn.get? name = none → ¬d.Silent

theorem declarable_of_builtIn {name : String} {d : Dialect}
    (h : Catalog.builtIn.get? name = some d) : Declarable name d := by
  refine ⟨Catalog.name_of_get?_builtIn h, fun hnew => ?_⟩
  rw [h] at hnew
  cases hnew

theorem declarable_of_dialectOf {name : String} {v : Toml.Value} {d : Dialect}
    (h : (dialectOf name v).outcome = .ok d) : Declarable name d := by
  obtain ⟨t, f, -, -, ⟨base, hbase, rfl⟩ | ⟨hnew, hopener, rfl⟩⟩ := dialectOf_eq_ok h
  · refine ⟨(declarable_of_builtIn hbase).name_eq, fun hnew => ?_⟩
    rw [hbase] at hnew
    cases hnew
  · exact ⟨rfl, fun _ => hopener⟩

variable {source? : Option Path} {t : Toml.Table} {s : Settings}

theorem declarable_of_get? (h : (ofTable source? t).outcome = .ok s) {name : String} {d : Dialect}
    (hd : s.catalogInUse.get? name = some d) : Declarable name d := by
  obtain ⟨v, -, hvd⟩ | ⟨-, hbase⟩ := get?_catalogInUse h hd
  · exact declarable_of_dialectOf hvd
  · exact declarable_of_builtIn hbase

theorem declarable_of_mem_entries (h : (ofTable source? t).outcome = .ok s) :
    ∀ e ∈ s.catalogInUse.entries, Declarable e.1 e.2 := fun e he =>
  declarable_of_get? h ((Dict.get?_eq_some_iff _ e.1 e.2).mpr he)

theorem declarable_of_mem_values (h : (ofTable source? t).outcome = .ok s) :
    ∀ d ∈ s.catalogInUse.values, Declarable d.name d := by
  intro d hd
  obtain ⟨e, he, rfl⟩ := List.mem_map.mp hd
  have hdeclarable := declarable_of_mem_entries h e he
  rwa [hdeclarable.name_eq]

/-- The keys of the catalog in use are the names of its dialects. -/
theorem map_values_catalogInUse (h : (ofTable source? t).outcome = .ok s) :
    (s.catalogInUse.values.map fun d => (d.name, d)) = s.catalogInUse.entries := by
  rw [Dict.values, List.map_map]
  refine (List.map_congr_left fun e he => ?_).trans (List.map_id _)
  exact Prod.ext (declarable_of_mem_entries h e he).name_eq rfl

/-! ### A dialect written out -/

/-- The table that sets all fields of a dialect. -/
def fieldsOf (d : Dialect) : Toml.Table :=
  [(descriptionKey, .string d.description), (openersKey, .array (d.openers.map .string)),
    (extensionsKey, .array (d.extensions.map .string)),
    (fileNamesKey, .array (d.fileNames.map .string))]

theorem ofTable_fieldsOf (name : String) (d : Dialect) :
    Fields.ofTable name (fieldsOf d) =
      .ok ⟨some d.openers, some d.extensions, some d.fileNames, some d.description⟩ := by
  have hknown : ((fieldsOf d).map Prod.fst).filter (· ∉ knownKeys) = [] := by
    show [descriptionKey, openersKey, extensionsKey, fileNamesKey].filter (· ∉ knownKeys) = []
    decide
  have hopeners : stringsAt name openersKey (fieldsOf d) = .ok (some d.openers) :=
    stringsAt_eq_ok_iff.mpr rfl
  have hextensions : stringsAt name extensionsKey (fieldsOf d) = .ok (some d.extensions) :=
    stringsAt_eq_ok_iff.mpr rfl
  have hfileNames : stringsAt name fileNamesKey (fieldsOf d) = .ok (some d.fileNames) :=
    stringsAt_eq_ok_iff.mpr rfl
  rw [Fields.ofTable, hknown, hopeners, hextensions, hfileNames]
  rfl

/-- The table of all its fields gives the dialect, over a built-in one too. -/
theorem dialectOf_fieldsOf {name : String} {d : Dialect} (h : Declarable name d) :
    (dialectOf name (.table (fieldsOf d))).outcome = .ok d := by
  obtain ⟨rfl, hopens⟩ := h
  unfold dialectOf
  dsimp only [Toml.Value.table?]
  rw [Journal.outcome_bind, Journal.outcome_ofExcept, ofTable_fieldsOf]
  generalize hbase : Catalog.builtIn.get? d.name = base?
  cases base? with
  | some base =>
    have hname : base.name = d.name := Catalog.name_of_get?_builtIn hbase
    show Except.ok (Fields.over _ base) = Except.ok d
    rw [Fields.over, hname]
    rfl
  | none =>
    have hopener : ¬d.openers.all (· = "") = true := by
      intro hall
      refine hopens hbase fun o ho => ?_
      exact of_decide_eq_true (List.all_eq_true.mp hall o ho)
    show Journal.outcome (if d.openers.all (· = "") = true then _ else _) = _
    rw [if_neg hopener]
    rfl

/-! ### Catalogs written out -/

/-- The settings that declare some dialects with all their fields. -/
def writtenOut (ds : List Dialect) : Toml.Table :=
  [("dialects", .table (ds.map fun d => (d.name, .table (fieldsOf d))))]

/-- Dialects that settings can give are accepted when they are written out. -/
theorem ofTable_writtenOut {ds : List Dialect} (h : ∀ d ∈ ds, Declarable d.name d)
    (source? : Option Path) :
    (ofTable source? (writtenOut ds)).outcome = .ok ⟨Catalog.ofDialects ds, source?⟩ := by
  have hentries : ¬DialectsNotATable (writtenOut ds) := by
    rintro ⟨v, hv, htable⟩
    exact htable _ (Option.some.inj hv).symm
  have hall : ((entriesIn (writtenOut ds)).mapM fun e =>
      (dialectOf e.1 e.2).outcome.map fun d => (e.1, d)) = .ok (ds.map fun d => (d.name, d)) := by
    show List.mapM _ (ds.map fun d => (d.name, Toml.Value.table (fieldsOf d))) = _
    rw [Steps.mapM_eq_ok_iff, List.forall₂_map_left_iff, List.forall₂_map_right_iff,
      List.forall₂_same]
    intro d hd
    rw [dialectOf_fieldsOf (h d hd)]
    rfl
  rw [outcome_ofTable, outcome_catalog hentries, hall]
  rfl

/-- The dialects in use, written out in any order, give every name the dialect it had. -/
theorem get?_writtenOut (h : (ofTable source? t).outcome = .ok s) {ds : List Dialect}
    (hds : ds.Perm s.catalogInUse.values) (name : String) :
    (Catalog.effective (.ofDialects ds)).get? name = s.catalogInUse.get? name := by
  have hentries : (ds.map fun d => (d.name, d)).Perm s.catalogInUse.entries := by
    rw [← map_values_catalogInUse h]
    exact hds.map _
  rw [Catalog.effective, Dict.get?_update, Catalog.ofDialects, Dict.get?_ofList_of_perm hentries,
    catalogInUse, Catalog.effective, Dict.get?_update, Option.or_assoc, Option.or_self]

/-- The dialects in use, written out in their order, give the catalog they come from. -/
theorem effective_writtenOut (h : (ofTable source? t).outcome = .ok s) :
    Catalog.effective (.ofDialects s.catalogInUse.values) = s.catalogInUse := by
  rw [Catalog.ofDialects, map_values_catalogInUse h, Dict.ofList_entries, catalogInUse,
    Catalog.effective, Catalog.effective, Dict.update_update]

end Settings

end FixturePragmas
