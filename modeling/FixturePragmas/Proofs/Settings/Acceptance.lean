import FixturePragmas.Proofs.Settings.Declarable

/-!
# Which tables of settings are accepted

A value that is declared under a name may have several faults (`Settings.EntryFault`), which are
looked for in an order (`Settings.faultsOf`). The reading of a value reports the first of them and
fails for no other reason (`Settings.dialectOf_reportsFirst`), so the reading of all values reports
the first fault of the first value that has one. Without a fault the table is accepted: each entry
gives the dialect of its name, whose fields are those given in the entry, and else those of the
built-in dialect of this name, or empty (`Settings.Declares`). `Settings.ofTable_accepts` puts this
together.
-/

namespace FixturePragmas.Settings

open Steps (ReportsFirst faultIf mem_faultIf_iff)

/-! ### Faults of one entry -/

/-- The keys of a dialect under which lists of texts stand, in the order in which they are read. -/
def listKeys : List String := [openersKey, extensionsKey, fileNamesKey]

/-- What can be wrong with a value that is declared under `name`, and the error that says so. -/
inductive EntryFault (name : String) : Toml.Value → Error → Prop
  | notATable {v : Toml.Value} (hv : ∀ t, v ≠ .table t) :
    EntryFault name v (.dialectNotATable name)
  | unknownKeys {t : Toml.Table} {key : String} (hkey : key ∈ t.map Prod.fst)
    (hunknown : key ∉ knownKeys) : EntryFault name (.table t)
      (.unknownKeys name (sorted ((t.map Prod.fst).filter (· ∉ knownKeys))))
  | notStrings {t : Toml.Table} {key : String} {v : Toml.Value} (hkey : key ∈ listKeys)
    (hv : t.lookup key = some v) (hstrings : ∀ ss : List String, v ≠ .array (ss.map .string)) :
    EntryFault name (.table t) (.notStrings name key)
  | descriptionNotAString {t : Toml.Table} {v : Toml.Value}
    (hv : t.lookup descriptionKey = some v) (hstring : ∀ s, v ≠ .string s) :
    EntryFault name (.table t) (.descriptionNotAString name)
  | noOpeners {t : Toml.Table} (hnew : name ∉ Catalog.builtIn.keys)
    (hempty : ∀ ss : List String, t.lookup openersKey = some (.array (ss.map .string)) →
      ∀ o ∈ ss, o = "") : EntryFault name (.table t) (.noOpeners name)

/-- The list of texts under `key`, if there is one. -/
def stringsIn (t : Toml.Table) (key : String) : Option (List String) :=
  (t.lookup key).bind Toml.Value.strings?

def unknownFaults (name : String) (t : Toml.Table) : List Error :=
  faultIf (unknownIn t ≠ []) (.unknownKeys name (sorted (unknownIn t)))

def stringsFaults (name : String) (t : Toml.Table) (key : String) : List Error :=
  faultIf (∃ v ∈ t.lookup key, v.strings? = none) (.notStrings name key)

def descriptionFaults (name : String) (t : Toml.Table) : List Error :=
  faultIf (∃ v ∈ t.lookup descriptionKey, v.string? = none) (.descriptionNotAString name)

def openersFaults (name : String) (t : Toml.Table) : List Error :=
  faultIf (name ∉ Catalog.builtIn.keys ∧ ∀ o ∈ (stringsIn t openersKey).getD [], o = "")
    (.noOpeners name)

/-- The faults of a value that is declared under `name`, in the order in which they are looked
for. -/
def faultsOf (name : String) : Toml.Value → List Error
  | .table t => unknownFaults name t ++ (listKeys.flatMap (stringsFaults name t) ++
      (descriptionFaults name t ++ openersFaults name t))
  | _ => [.dialectNotATable name]

section

variable {name key : String} {t : Toml.Table} {err : Error}

theorem unknownIn_ne_nil_iff : unknownIn t ≠ [] ↔ ∃ key ∈ t.map Prod.fst, key ∉ knownKeys := by
  rw [unknownIn, ne_eq, List.filter_eq_nil_iff]
  simp

theorem strings?_eq_none_iff {v : Toml.Value} :
    v.strings? = none ↔ ∀ ss : List String, v ≠ .array (ss.map .string) := by
  rw [Option.eq_none_iff_forall_ne_some]
  exact forall_congr' fun ss => not_congr Toml.Value.strings?_eq_some_iff

theorem stringsIn_eq_some_iff {ss : List String} :
    stringsIn t key = some ss ↔ t.lookup key = some (.array (ss.map .string)) := by
  rw [stringsIn, Option.bind_eq_some_iff]
  constructor
  · rintro ⟨v, hv, hss⟩
    rw [hv, Toml.Value.strings?_eq_some_iff.mp hss]
  · exact fun h => ⟨_, h, Toml.Value.strings?_eq_some_iff.mpr rfl⟩

theorem string?_eq_none_iff {v : Toml.Value} : v.string? = none ↔ ∀ s, v ≠ .string s := by
  cases v <;> simp [Toml.Value.string?]

theorem forall_mem_stringsIn_iff :
    (∀ o ∈ (stringsIn t key).getD [], o = "") ↔
      ∀ ss : List String, t.lookup key = some (.array (ss.map .string)) → ∀ o ∈ ss, o = "" := by
  simp only [← stringsIn_eq_some_iff]
  cases stringsIn t key with
  | none => simp
  | some ss => simp

/-- The list of faults has all of them. -/
theorem mem_faultsOf_iff {v : Toml.Value} : err ∈ faultsOf name v ↔ EntryFault name v err := by
  cases v with
  | table t =>
    -- each part of the list has the faults of one constructor
    simp only [faultsOf, List.mem_append, List.mem_flatMap, unknownFaults, stringsFaults,
      descriptionFaults, openersFaults, mem_faultIf_iff, unknownIn_ne_nil_iff, strings?_eq_none_iff,
      string?_eq_none_iff, forall_mem_stringsIn_iff]
    constructor
    · rintro (⟨⟨key, hkey, hunknown⟩, rfl⟩ | ⟨key, hkey, ⟨v, hv, hstrings⟩, rfl⟩ |
        ⟨⟨v, hv, hstring⟩, rfl⟩ | ⟨⟨hnew, hempty⟩, rfl⟩)
      · exact .unknownKeys hkey hunknown
      · exact .notStrings hkey hv hstrings
      · exact .descriptionNotAString hv hstring
      · exact .noOpeners hnew hempty
    · rintro (⟨hv⟩ | ⟨hkey, hunknown⟩ | ⟨hkey, hv, hstrings⟩ | ⟨hv, hstring⟩ | ⟨hnew, hempty⟩)
      · exact absurd rfl (hv t)
      · exact .inl ⟨⟨_, hkey, hunknown⟩, rfl⟩
      · exact .inr (.inl ⟨_, hkey, ⟨_, hv, hstrings⟩, rfl⟩)
      · exact .inr (.inr (.inl ⟨⟨_, hv, hstring⟩, rfl⟩))
      · exact .inr (.inr (.inr ⟨⟨hnew, hempty⟩, rfl⟩))
  | _ =>
    rw [faultsOf, List.mem_singleton]
    · constructor
      · rintro rfl
        exact .notATable nofun
      · rintro ⟨-⟩
        rfl
    · exact nofun

end

/-! ### The reading of one entry -/

theorem stringsAt_reportsFirst (name : String) (t : Toml.Table) (key : String) :
    ReportsFirst (stringsFaults name t key) (stringsAt name key t) := by
  rw [stringsAt_eq_readAt]
  exact readAt_reportsFirst

theorem descriptionIn_reportsFirst (name : String) (t : Toml.Table) :
    ReportsFirst (descriptionFaults name t) (descriptionIn name t) := by
  rw [descriptionIn_eq_readAt]
  exact readAt_reportsFirst

theorem Fields.ofTable_reportsFirst (name : String) (t : Toml.Table) :
    ReportsFirst (unknownFaults name t ++
      (listKeys.flatMap (stringsFaults name t) ++ descriptionFaults name t))
      (Fields.ofTable name t) := by
  rw [Fields.ofTable_eq]
  -- one step for each part of the list of faults, in the order of the reading
  refine ReportsFirst.bind (.of_condition (fun h => if_pos h) fun h => ⟨(), if_neg h⟩) fun _ _ => ?_
  simp only [listKeys, List.flatMap_cons, List.flatMap_nil, List.append_nil, List.append_assoc]
  refine (stringsAt_reportsFirst name t openersKey).bind fun _ _ => ?_
  refine (stringsAt_reportsFirst name t extensionsKey).bind fun _ _ => ?_
  refine (stringsAt_reportsFirst name t fileNamesKey).bind fun _ _ => ?_
  rw [← List.append_nil (descriptionFaults name t)]
  exact (descriptionIn_reportsFirst name t).bind fun _ _ => .ok _

/-- The reading of a value that is declared under a name reports the first of its faults. -/
theorem dialectOf_reportsFirst (name : String) (v : Toml.Value) :
    ReportsFirst (faultsOf name v) (dialectOf name v).outcome := by
  cases v with
  | table t =>
    rw [outcome_dialectOf_table, faultsOf, ← List.append_assoc, ← List.append_assoc]
    rw [List.append_assoc (unknownFaults name t)]
    refine (Fields.ofTable_reportsFirst name t).bind fun f hf => ?_
    have hopeners : f.openers? = stringsIn t openersKey := by
      refine Option.ext fun ss => ?_
      rw [stringsIn_eq_some_iff]
      exact Fields.openers?_eq_some_iff hf
    rw [hopeners]
    exact .of_condition (fun h => if_pos h) fun h => ⟨_, if_neg h⟩
  | _ => exact .error _ []

/-! ### All entries -/

/-- The reading of all entries reports the first fault of the first entry that has one. -/
theorem catalog_reportsFirst {t : Toml.Table} (h : ¬DialectsNotATable t) :
    ReportsFirst ((entriesIn t).flatMap fun e => faultsOf e.1 e.2) (catalog t).outcome := by
  rw [outcome_catalog h]
  refine ReportsFirst.map _ (.mapM (fun e => ?_) (entriesIn t))
  exact (dialectOf_reportsFirst e.1 e.2).map _

/-- The first fault of the first entry that has one. -/
theorem head?_faults_eq_some_iff {es : List (String × Toml.Value)} {err : Error} :
    (es.flatMap fun e => faultsOf e.1 e.2).head? = some err ↔
      ∃ before e after, es = before ++ e :: after ∧
        (∀ b ∈ before, ∀ fault, ¬EntryFault b.1 b.2 fault) ∧
        (faultsOf e.1 e.2).head? = some err := by
  have hnone (b : String × Toml.Value) :
      (faultsOf b.1 b.2).head? = none ↔ ∀ fault, ¬EntryFault b.1 b.2 fault := by
    rw [List.head?_eq_none_iff, List.eq_nil_iff_forall_not_mem]
    exact forall_congr' fun fault => not_congr mem_faultsOf_iff
  rw [List.head?_flatMap, List.findSome?_eq_some_iff]
  constructor
  · rintro ⟨before, e, after, hes, herr, hbefore⟩
    exact ⟨before, e, after, hes, fun b hb => (hnone b).mp (hbefore b hb), herr⟩
  · rintro ⟨before, e, after, hes, hbefore, herr⟩
    exact ⟨before, e, after, hes, herr, fun b hb => (hnone b).mpr (hbefore b hb)⟩

/-! ### What an accepted table declares -/

/-- Whether `x` is what the table `t` gives under `key`, written as `write` says, or else `base`. -/
def FieldOf {α : Type} (write : α → Toml.Value) (t : Toml.Table) (key : String) (base x : α) :
    Prop :=
  t.lookup key = some (write x) ∨ t.lookup key = none ∧ x = base

theorem fieldOf_getD {α : Type} {write : α → Toml.Value} {t : Toml.Table} {key : String}
    {x? : Option α} (h : t.lookup key = x?.map write) (base : α) :
    FieldOf write t key base (x?.getD base) := by
  cases x? with
  | none => exact .inr ⟨h, rfl⟩
  | some x => exact .inl h

/-- A list of texts as a value. -/
def ofStrings (ss : List String) : Toml.Value := .array (ss.map .string)

/-- Whether `d` is the dialect that the table `t` declares under `name`: it is called so, and each
field is the one given in the table, or else that of the built-in dialect of this name, or empty if
there is none. -/
structure Declares (name : String) (t : Toml.Table) (d : Dialect) : Prop where
  name_eq : d.name = name
  openers : FieldOf ofStrings t openersKey (baseOf name).openers d.openers
  extensions : FieldOf ofStrings t extensionsKey (baseOf name).extensions d.extensions
  fileNames : FieldOf ofStrings t fileNamesKey (baseOf name).fileNames d.fileNames
  description : FieldOf Toml.Value.string t descriptionKey (baseOf name).description d.description

theorem name_baseOf (name : String) : (baseOf name).name = name := by
  unfold baseOf
  cases hbase : Catalog.builtIn.get? name with
  | none => rfl
  | some base => exact Catalog.name_of_get?_builtIn hbase

theorem Fields.name_over (f : Fields) (d : Dialect) : (f.over d).name = d.name := rfl

theorem declares_over {name : String} {t : Toml.Table} {f : Fields}
    (h : Fields.ofTable name t = .ok f) : Declares name t (f.over (baseOf name)) := by
  obtain ⟨hopeners, hextensions, hfileNames, hdescription⟩ := Fields.ofTable_eq_ok h
  refine ⟨(f.name_over _).trans (name_baseOf name), ?_, ?_, ?_, ?_⟩
  · exact fieldOf_getD (stringsAt_eq_ok_iff.mp hopeners) (baseOf name).openers
  · exact fieldOf_getD (stringsAt_eq_ok_iff.mp hextensions) (baseOf name).extensions
  · exact fieldOf_getD (stringsAt_eq_ok_iff.mp hfileNames) (baseOf name).fileNames
  · exact fieldOf_getD (descriptionIn_eq_ok_iff.mp hdescription) (baseOf name).description

/-- What is read under a name is the dialect that is declared. -/
theorem declares_of_dialectOf {name : String} {v : Toml.Value} {d : Dialect}
    (h : (dialectOf name v).outcome = .ok d) : ∃ t, v = .table t ∧ Declares name t d := by
  cases v with
  | table t =>
    rw [outcome_dialectOf_table] at h
    obtain ⟨f, hf, h⟩ := Steps.bind_eq_ok_iff.mp h
    split at h
    · cases h
    · obtain rfl := Except.ok.inj h
      exact ⟨t, rfl, declares_over hf⟩
  | _ => cases h

/-- Whether the entry `e'` of a catalog is what the entry `e` of a table declares. -/
def EntryDeclares (e : String × Toml.Value) (e' : String × Dialect) : Prop :=
  e'.1 = e.1 ∧ ∃ fields, e.2 = .table fields ∧ Declares e.1 fields e'.2

/-- An accepted table gives, entry by entry, the dialects that it declares. -/
theorem exists_declared {t : Toml.Table} {c : Catalog} (h : (catalog t).outcome = .ok c) :
    ∃ ds, c = .ofList ds ∧ ds.map Prod.fst = (entriesIn t).map Prod.fst ∧
      List.Forall₂ EntryDeclares (entriesIn t) ds := by
  obtain ⟨ds, rfl, hds⟩ := catalog_eq_ok h
  have hread : List.Forall₂ EntryDeclares (entriesIn t) ds :=
    hds.imp fun e e' he => ⟨he.1, declares_of_dialectOf he.2⟩
  refine ⟨ds, rfl, ?_, hread⟩
  rw [← List.forall₂_eq_eq_eq, List.forall₂_map_left_iff, List.forall₂_map_right_iff]
  exact hread.flip.imp fun _ _ he => he.1

theorem forall₂_catalog {t : Toml.Table} {c : Catalog} (h : (catalog t).outcome = .ok c)
    (hnames : ((entriesIn t).map Prod.fst).Nodup) :
    List.Forall₂ EntryDeclares (entriesIn t) c.entries := by
  obtain ⟨ds, rfl, hkeys, hread⟩ := exists_declared h
  rwa [Dict.entries_ofList (hkeys ▸ hnames)]

/-- Each name is declared once, in the place where it first comes. -/
theorem keys_catalog {t : Toml.Table} {c : Catalog} (h : (catalog t).outcome = .ok c) :
    c.keys = ((entriesIn t).map Prod.fst).eraseDups := by
  obtain ⟨ds, rfl, hkeys, -⟩ := exists_declared h
  rw [Dict.keys_ofList, hkeys]

/-- Settings are refused exactly if there is a fault in them, and the error is that of the first
entry with a fault. Accepted settings hold the dialects that the entries declare, where no two
entries have one name, as in a table that was read. -/
theorem ofTable_accepts (source? : Option Path) (t : Toml.Table) :
    ((∃ err, (ofTable source? t).outcome = .error err) ↔
        DialectsNotATable t ∨ ∃ e ∈ entriesIn t, ∃ fault, EntryFault e.1 e.2 fault) ∧
      (∀ err, (ofTable source? t).outcome = .error err →
        DialectsNotATable t ∧ err = .dialectsNotATable ∨
          ∃ before e after, entriesIn t = before ++ e :: after ∧
            (∀ b ∈ before, ∀ fault, ¬EntryFault b.1 b.2 fault) ∧ EntryFault e.1 e.2 err ∧
            (faultsOf e.1 e.2).head? = some err) ∧
      ∀ s, (ofTable source? t).outcome = .ok s →
        s.source? = source? ∧
          (((entriesIn t).map Prod.fst).Nodup →
            List.Forall₂ EntryDeclares (entriesIn t) s.dialects.entries) := by
  rw [outcome_ofTable]
  refine ⟨?_, fun err herr => ?_, fun s hs => ?_⟩
  -- what is no table at all is refused before any entry is read
  · by_cases hno : DialectsNotATable t
    · rw [outcome_catalog_of_notATable hno]
      exact ⟨fun _ => .inl hno, fun _ => ⟨_, rfl⟩⟩
    · rw [((catalog_reportsFirst hno).map _).exists_error_iff, ne_eq,
        List.eq_nil_iff_forall_not_mem]
      simp only [List.mem_flatMap, mem_faultsOf_iff, not_forall, not_not]
      constructor
      · rintro ⟨fault, e, he, hfault⟩
        exact .inr ⟨e, he, fault, hfault⟩
      · rintro (hno' | ⟨e, he, fault, hfault⟩)
        · exact absurd hno' hno
        · exact ⟨fault, e, he, hfault⟩
  · rw [Steps.map_eq_error_iff] at herr
    by_cases hno : DialectsNotATable t
    · rw [outcome_catalog_of_notATable hno] at herr
      exact .inl ⟨hno, (Except.error.inj herr).symm⟩
    · obtain ⟨before, e, after, hes, hbefore, hhead⟩ :=
        head?_faults_eq_some_iff.mp ((catalog_reportsFirst hno err).mp herr)
      exact .inr ⟨before, e, after, hes, hbefore,
        mem_faultsOf_iff.mp (List.mem_of_mem_head? hhead), hhead⟩
  · obtain ⟨c, hc, rfl⟩ := Steps.map_eq_ok_iff.mp hs
    exact ⟨rfl, forall₂_catalog hc⟩

/-- Settings with two faulty entries behind a good one, the first of them with two faults. -/
def faultyEntries : Toml.Table :=
  [("dialects", .table [
    ("go", .table [(descriptionKey, .string "Go")]),
    ("batch", .table [(descriptionKey, .boolean true),
      (openersKey, .array [.string "rem", .integer 1])]),
    ("vue", .integer 3)])]

/-- Of the faults in `faultyEntries` the one in the openers of the second entry is reported, and
`threeDialects` is accepted. -/
theorem ofTable_accepts_faultyEntries :
    (ofTable none faultyEntries).outcome = .error (.notStrings "batch" openersKey) ∧
      (∃ before e after, entriesIn faultyEntries = before ++ e :: after ∧
        (∀ b ∈ before, ∀ fault, ¬EntryFault b.1 b.2 fault) ∧
        EntryFault e.1 e.2 (.notStrings "batch" openersKey) ∧
        (faultsOf e.1 e.2).head? = some (.notStrings "batch" openersKey)) ∧
      ((entriesIn threeDialects).map Prod.fst).Nodup ∧
      ∃ s, (ofTable none threeDialects).outcome = .ok s ∧
        List.Forall₂ EntryDeclares (entriesIn threeDialects) s.dialects.entries := by
  have hnames : ((entriesIn threeDialects).map Prod.fst).Nodup := by decide
  have herr : (ofTable none faultyEntries).outcome = .error (.notStrings "batch" openersKey) := by
    decide +kernel
  refine ⟨herr, ?_, hnames, ?_⟩
  · rcases (ofTable_accepts none faultyEntries).2.1 _ herr with ⟨-, hwrong⟩ | hfirst
    · cases hwrong
    · exact hfirst
  · obtain ⟨s, hs⟩ := Steps.exists_of_isOk
      (by decide +kernel : (ofTable none threeDialects).outcome.isOk = true)
    exact ⟨s, hs, ((ofTable_accepts none threeDialects).2.2 s hs).2 hnames⟩

end FixturePragmas.Settings
