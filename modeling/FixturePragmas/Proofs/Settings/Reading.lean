import FixturePragmas.Proofs.Journal
import FixturePragmas.Settings

/-!
# How a table of settings is read

The reading of settings is taken apart into its steps. What is set under a key is what stands there,
and a value of the wrong type is the only fault in it (`Settings.readAt_eq_ok_iff`,
`Settings.readAt_reportsFirst`). The fields of a table are read one after the other
(`Settings.Fields.ofTable_eq`) and set over the built-in dialect of the name, or over one without
content (`Settings.outcome_dialectOf_table`); and so are the entries that declare dialects
(`Settings.outcome_catalog`). What is proved about settings is proved from these equations.
-/

namespace FixturePragmas

/-! ### Texts -/

namespace Toml.Value

theorem mapM_string?_eq_some_iff {vs : List Value} {ss : List String} :
    vs.mapM string? = some ss ↔ vs = ss.map .string := by
  induction vs generalizing ss with
  | nil => cases ss <;> simp
  | cons v vs ih =>
    rw [List.mapM_cons]
    cases ss with
    | nil => cases v <;> simp [string?, Option.bind_eq_some_iff]
    | cons s ss => cases v <;> simp [string?, ih, Option.bind_eq_some_iff, and_comm]

theorem strings?_eq_some_iff {v : Value} {ss : List String} :
    v.strings? = some ss ↔ v = .array (ss.map .string) := by
  cases v <;> simp [strings?, mapM_string?_eq_some_iff]

theorem string?_eq_some_iff {v : Value} {s : String} : v.string? = some s ↔ v = .string s := by
  cases v <;> simp [string?]

end Toml.Value

namespace Settings

/-! ### Fields -/

/-- What `read?` makes of the value under `key`, if the table has the key. -/
def readAt {α : Type} (read? : Toml.Value → Option α) (err : Error) (key : String)
    (t : Toml.Table) : Except Error (Option α) :=
  match t.lookup key with
  | none => .ok none
  | some v =>
    match read? v with
    | some a => .ok (some a)
    | none => .error err

section

variable {α : Type} {read? : Toml.Value → Option α} {write : α → Toml.Value} {err : Error}
  {name key : String} {t : Toml.Table}

/-- What is read is what stands there, written as `write` says. -/
theorem readAt_eq_ok_iff (hread : ∀ {v a}, read? v = some a ↔ v = write a) {a? : Option α} :
    readAt read? err key t = .ok a? ↔ t.lookup key = a?.map write := by
  unfold readAt
  cases t.lookup key with
  | none => cases a? <;> simp
  | some v =>
    cases a? with
    | none =>
      dsimp only
      split <;> exact ⟨nofun, nofun⟩
    | some a =>
      rw [Option.map_some, Option.some_inj, ← hread]
      dsimp only
      split
      · next h => rw [h, Except.ok.injEq]
      · next h =>
        rw [h]
        exact ⟨nofun, nofun⟩

/-- A value that cannot be read is the only fault. -/
theorem readAt_reportsFirst : Steps.ReportsFirst
    (Steps.faultIf (∃ v ∈ t.lookup key, read? v = none) err) (readAt read? err key t) := by
  refine .of_condition (fun h => ?_) fun h => ?_
  · obtain ⟨v, hv, hnone⟩ := h
    rw [readAt, Option.mem_def.mp hv]
    dsimp only
    rw [hnone]
  · unfold readAt
    split
    · exact ⟨none, rfl⟩
    · next v hv =>
      split
      · next a ha => exact ⟨some a, rfl⟩
      · next hnone => exact absurd ⟨v, hv, hnone⟩ h

theorem stringsAt_eq_readAt (name key : String) (t : Toml.Table) :
    stringsAt name key t = readAt Toml.Value.strings? (.notStrings name key) key t := by
  unfold stringsAt readAt
  cases t.lookup key with
  | none => rfl
  | some v =>
    dsimp only
    cases v.strings? <;> rfl

theorem descriptionIn_eq_readAt (name : String) (t : Toml.Table) : descriptionIn name t =
    readAt Toml.Value.string? (.descriptionNotAString name) descriptionKey t := by
  unfold descriptionIn readAt
  cases t.lookup descriptionKey with
  | none => rfl
  | some v =>
    dsimp only
    cases v.string? <;> rfl

theorem stringsAt_eq_ok_iff {ss? : Option (List String)} : stringsAt name key t = .ok ss? ↔
    t.lookup key = ss?.map fun ss => .array (ss.map .string) := by
  rw [stringsAt_eq_readAt, readAt_eq_ok_iff Toml.Value.strings?_eq_some_iff]

theorem descriptionIn_eq_ok_iff {s? : Option String} :
    descriptionIn name t = .ok s? ↔ t.lookup descriptionKey = s?.map .string := by
  rw [descriptionIn_eq_readAt, readAt_eq_ok_iff Toml.Value.string?_eq_some_iff]

end

/-- The keys of a table that mean nothing. -/
def unknownIn (t : Toml.Table) : List String := (t.map Prod.fst).filter (· ∉ knownKeys)

/-- The reading of the fields, one step after the other. -/
theorem Fields.ofTable_eq (name : String) (t : Toml.Table) :
    Fields.ofTable name t =
      (if unknownIn t ≠ [] then .error (.unknownKeys name (sorted (unknownIn t))) else .ok ()) >>=
        fun _ => stringsAt name openersKey t >>= fun openers? =>
        stringsAt name extensionsKey t >>= fun extensions? =>
        stringsAt name fileNamesKey t >>= fun fileNames? =>
        descriptionIn name t >>= fun description? =>
        .ok ⟨openers?, extensions?, fileNames?, description?⟩ := by
  unfold ofTable
  dsimp only
  split
  · next h =>
    have hunknown : unknownIn t ≠ [] := h
    rw [if_pos hunknown]
    rfl
  · next h =>
    have hknown : ¬unknownIn t ≠ [] := h
    rw [if_neg hknown]
    rfl

/-- The fields that are set are those in the table. -/
theorem Fields.ofTable_eq_ok {name : String} {t : Toml.Table} {f : Fields}
    (h : ofTable name t = .ok f) :
    stringsAt name openersKey t = .ok f.openers? ∧
      stringsAt name extensionsKey t = .ok f.extensions? ∧
      stringsAt name fileNamesKey t = .ok f.fileNames? ∧
      descriptionIn name t = .ok f.description? := by
  rw [ofTable_eq] at h
  obtain ⟨-, -, h⟩ := Steps.bind_eq_ok_iff.mp h
  obtain ⟨openers?, hopeners, h⟩ := Steps.bind_eq_ok_iff.mp h
  obtain ⟨extensions?, hextensions, h⟩ := Steps.bind_eq_ok_iff.mp h
  obtain ⟨fileNames?, hfileNames, h⟩ := Steps.bind_eq_ok_iff.mp h
  obtain ⟨description?, hdescription, h⟩ := Steps.bind_eq_ok_iff.mp h
  cases h
  exact ⟨hopeners, hextensions, hfileNames, hdescription⟩

/-! ### Dialects -/

/-- The dialect over which the fields declared under a name are set. -/
def baseOf (name : String) : Dialect :=
  (Catalog.builtIn.get? name).getD { name, openers := [] }

/-- The reading of a table, as cases. -/
theorem outcome_dialectOf_table (name : String) (t : Toml.Table) :
    (dialectOf name (.table t)).outcome = Fields.ofTable name t >>= fun f =>
      if name ∉ Catalog.builtIn.keys ∧ ∀ o ∈ f.openers?.getD [], o = "" then
        .error (.noOpeners name)
      else .ok (f.over (baseOf name)) := by
  unfold dialectOf
  dsimp only [Toml.Value.table?]
  rw [Journal.outcome_bind, Journal.outcome_ofExcept]
  refine congrArg _ (funext fun f => ?_)
  have hnone := Dict.get?_eq_none_iff Catalog.builtIn name
  unfold baseOf
  -- only whether the name is built in matters, so the large table is taken out of the goal
  generalize Catalog.builtIn.get? name = base? at hnone ⊢
  cases base? with
  | some base =>
    have hkey : ¬(name ∉ Catalog.builtIn.keys) := fun hnew => nomatch hnone.mpr hnew
    dsimp only
    rw [if_neg fun h => hkey h.1]
    rfl
  | none =>
    have hall : (f.openers?.getD []).all (· = "") = true ↔ ∀ o ∈ f.openers?.getD [], o = "" := by
      simp
    dsimp only
    by_cases hempty : ∀ o ∈ f.openers?.getD [], o = ""
    · rw [if_pos (hall.mpr hempty), if_pos ⟨hnone.mp rfl, hempty⟩]
      rfl
    · rw [if_neg fun h => hempty (hall.mp h), if_neg fun h => hempty h.2]
      rfl

/-! ### All entries -/

/-- The entries of a table that declare dialects, in their order. -/
def entriesIn (t : Toml.Table) : List (String × Toml.Value) :=
  match t.lookup "dialects" with
  | some (.table es) => es
  | _ => []

/-- Whether something else than a table stands where dialects are declared. -/
def DialectsNotATable (t : Toml.Table) : Prop :=
  ∃ v, t.lookup "dialects" = some v ∧ ∀ es, v ≠ .table es

theorem outcome_catalog_of_notATable {t : Toml.Table} (h : DialectsNotATable t) :
    (catalog t).outcome = .error .dialectsNotATable := by
  obtain ⟨v, hv, htable⟩ := h
  rw [catalog, hv, Option.getD_some]
  cases v with
  | table es => exact absurd rfl (htable es)
  | _ => rfl

theorem outcome_catalog {t : Toml.Table} (h : ¬DialectsNotATable t) :
    (catalog t).outcome = ((entriesIn t).mapM fun e =>
      (dialectOf e.1 e.2).outcome.map fun d => (e.1, d)).map Dict.ofList := by
  have hentries : (t.lookup "dialects").getD (.table []) = .table (entriesIn t) := by
    unfold entriesIn
    split
    · next hes => rw [hes, Option.getD_some]
    · next hno =>
      cases hv : t.lookup "dialects" with
      | none => rfl
      | some v => exact absurd ⟨v, hv, fun es hes => hno es (hes ▸ hv)⟩ h
  have hstep (e : String × Toml.Value) :
      (dialectOf e.1 e.2 >>= fun d => pure (e.1, d)).outcome =
        (dialectOf e.1 e.2).outcome.map fun d => (e.1, d) := by
    rw [Journal.outcome_bind]
    rfl
  rw [catalog, hentries]
  dsimp only
  rw [Journal.outcome_bind, Journal.outcome_mapM, funext hstep]
  rfl

/-- The catalog that is read has the entries of the table, in their order, each name once. -/
theorem catalog_eq_ok {t : Toml.Table} {c : Catalog} (h : (catalog t).outcome = .ok c) :
    ∃ ds, c = .ofList ds ∧
      List.Forall₂ (fun e e' => e'.1 = e.1 ∧ (dialectOf e.1 e.2).outcome = .ok e'.2)
        (entriesIn t) ds := by
  have hentries : ¬DialectsNotATable t := fun hno => by
    rw [outcome_catalog_of_notATable hno] at h
    cases h
  rw [outcome_catalog hentries] at h
  obtain ⟨ds, hds, rfl⟩ := Steps.map_eq_ok_iff.mp h
  refine ⟨ds, rfl, (Steps.mapM_eq_ok_iff.mp hds).imp fun e e' he => ?_⟩
  obtain ⟨d, hd, rfl⟩ := Steps.map_eq_ok_iff.mp he
  exact ⟨rfl, hd⟩

theorem outcome_ofTable (source? : Option Path) (t : Toml.Table) :
    (ofTable source? t).outcome = (catalog t).outcome.map fun c => ⟨c, source?⟩ := by
  rw [ofTable, Journal.outcome_bind]
  rfl

end Settings

end FixturePragmas
