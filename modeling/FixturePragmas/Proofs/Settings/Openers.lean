import FixturePragmas.Proofs.Dialect
import FixturePragmas.Proofs.Dict
import FixturePragmas.Proofs.Line
import FixturePragmas.Proofs.Settings.Reading

/-!
# Which dialects settings leave without an opener

A dialect without an opener is silent: no line of its files has a comment, whatever stands in them.
No built-in dialect is silent, and the table of a new dialect must give an opener that is not empty.
The table of a built-in dialect is not checked in this way, so it may take all openers away; this is
the only way to a silent dialect (`Settings.silent_iff`).
-/

namespace FixturePragmas

/-! ### Dialects -/

/-- A dialect that opens no comment: all its openers are empty. -/
def Dialect.Silent (d : Dialect) : Prop := ∀ o ∈ d.openers, o = ""

theorem Catalog.exists_get?_of_resolve? {c : Catalog} {path : Path} {d : Dialect}
    (h : c.resolve? path = some d) : ∃ name, c.get? name = some d := by
  obtain ⟨e, he, rfl⟩ := List.mem_map.mp (mem_of_resolve? h)
  exact ⟨e.1, (Dict.get?_eq_some_iff c e.1 e.2).mpr he⟩

namespace Settings

theorem builtIn_not_silent {name : String} {d : Dialect} (h : Catalog.builtIn.get? name = some d) :
    ¬d.Silent := by
  have hall : ∀ e ∈ Catalog.builtIn.entries, ∃ o ∈ e.2.openers, o ≠ "" := by decide +kernel
  obtain ⟨o, ho, hne⟩ := hall _ ((Dict.get?_eq_some_iff _ _ _).mp h)
  exact fun hsilent => hne (hsilent o ho)

/-! ### What a table sets -/

/-- The openers that are set are those in the table. -/
theorem Fields.openers?_eq_some_iff {name : String} {t : Toml.Table} {f : Fields}
    (h : ofTable name t = .ok f) {openers : List String} :
    f.openers? = some openers ↔ t.lookup openersKey = some (.array (openers.map .string)) := by
  rw [stringsAt_eq_ok_iff.mp (Fields.ofTable_eq_ok h).1, Option.map_eq_some_iff]
  constructor
  · exact fun hset => ⟨openers, hset, rfl⟩
  · rintro ⟨openers', hset, heq⟩
    have hsame := Toml.Value.strings?_eq_some_iff.mpr heq
    rw [Toml.Value.strings?_eq_some_iff.mpr rfl] at hsame
    rw [hset, hsame]

/-- What is set over a dialect that is not silent makes it so only if it is a list of openers with
nothing but empty texts in it. -/
theorem Fields.silent_over_iff {f : Fields} {base : Dialect} (hbase : ¬base.Silent) :
    (f.over base).Silent ↔ ∃ openers, f.openers? = some openers ∧ ∀ o ∈ openers, o = "" := by
  unfold Dialect.Silent Fields.over
  cases f.openers? with
  | none => simpa [Dialect.Silent] using hbase
  | some openers => simp

/-! ### What a table declares -/

/-- The two ways to a dialect: a table over a built-in one, and a new table with an opener. -/
theorem dialectOf_eq_ok {name : String} {v : Toml.Value} {d : Dialect}
    (h : (dialectOf name v).outcome = .ok d) :
    ∃ t f, v = .table t ∧ Fields.ofTable name t = .ok f ∧
      ((∃ base, Catalog.builtIn.get? name = some base ∧ d = f.over base) ∨
        Catalog.builtIn.get? name = none ∧ ¬(∀ o ∈ f.openers?.getD [], o = "") ∧
          d = f.over { name, openers := [] }) := by
  cases v with
  | table t =>
    rw [outcome_dialectOf_table] at h
    obtain ⟨f, hf, h⟩ := Steps.bind_eq_ok_iff.mp h
    split at h
    · cases h
    · next hopener =>
      obtain rfl := Except.ok.inj h
      refine ⟨t, f, rfl, hf, ?_⟩
      unfold baseOf
      cases hbase : Catalog.builtIn.get? name with
      | some base => exact .inl ⟨base, rfl, rfl⟩
      | none =>
        have hnew := (Dict.get?_eq_none_iff _ _).mp hbase
        exact .inr ⟨rfl, fun hempty => hopener ⟨hnew, hempty⟩, rfl⟩
  | _ => cases h

/-- Whether the value declared under `name` takes the openers of a built-in dialect away: it gives a
list of openers with nothing but empty texts in it. -/
def Empties (name : String) (v : Toml.Value) : Prop :=
  name ∈ Catalog.builtIn.keys ∧ ∃ (fields : Toml.Table) (openers : List String),
    v = .table fields ∧ fields.lookup openersKey = some (.array (openers.map .string)) ∧
      ∀ o ∈ openers, o = ""

theorem silent_dialectOf_iff {name : String} {v : Toml.Value} {d : Dialect}
    (h : (dialectOf name v).outcome = .ok d) : d.Silent ↔ Empties name v := by
  obtain ⟨t, f, rfl, hf, hways⟩ := dialectOf_eq_ok h
  obtain ⟨base, hbase, rfl⟩ | ⟨hnew, hopener, rfl⟩ := hways
  · have hkey : name ∈ Catalog.builtIn.keys := Dict.mem_keys_iff.mpr ⟨base, hbase⟩
    rw [Fields.silent_over_iff (builtIn_not_silent hbase)]
    constructor
    · rintro ⟨openers, hset, hempty⟩
      exact ⟨hkey, t, openers, rfl, (Fields.openers?_eq_some_iff hf).mp hset, hempty⟩
    · rintro ⟨-, fields, openers, hfields, hgiven, hempty⟩
      cases hfields
      exact ⟨openers, (Fields.openers?_eq_some_iff hf).mpr hgiven, hempty⟩
  · constructor
    · exact fun hsilent => absurd hsilent hopener
    · rintro ⟨hkey, -⟩
      exact absurd hkey ((Dict.get?_eq_none_iff _ _).mp hnew)

/-! ### Settings as a whole -/

/-- The values declared in a table of settings, by the names of their dialects. -/
def declared (t : Toml.Table) : Dict String Toml.Value :=
  match (t.lookup "dialects").getD (.table []) with
  | .table es => .ofList es
  | _ => .empty

theorem declared_eq (t : Toml.Table) : declared t = .ofList (entriesIn t) := by
  unfold declared entriesIn
  cases t.lookup "dialects" with
  | none => rfl
  | some v => cases v <;> rfl

/-- What is read under a name is what its value declares. -/
theorem rel_catalog {t : Toml.Table} {c : Catalog} (h : (catalog t).outcome = .ok c)
    (name : String) :
    Option.Rel (fun v d => (dialectOf name v).outcome = .ok d)
      ((declared t).get? name) (c.get? name) := by
  obtain ⟨ds, rfl, hds⟩ := catalog_eq_ok h
  rw [declared_eq]
  exact Dict.rel_ofList (R := fun name v d => (dialectOf name v).outcome = .ok d) hds name

/-- Whether the settings in a table take the openers of the built-in dialect `name` away. -/
def Silences (t : Toml.Table) (name : String) : Prop :=
  ∃ v ∈ (declared t).get? name, Empties name v

variable {source? : Option Path} {t : Toml.Table} {s : Settings}

theorem ofTable_eq_ok (h : (ofTable source? t).outcome = .ok s) :
    (catalog t).outcome = .ok s.dialects := by
  rw [outcome_ofTable] at h
  obtain ⟨c, hc, rfl⟩ := Steps.map_eq_ok_iff.mp h
  exact hc

/-- A dialect in use is declared by the settings, or else built in and left as it is. -/
theorem get?_catalogInUse (h : (ofTable source? t).outcome = .ok s) {name : String} {d : Dialect}
    (hd : s.catalogInUse.get? name = some d) :
    (∃ v, (declared t).get? name = some v ∧ (dialectOf name v).outcome = .ok d) ∨
      (declared t).get? name = none ∧ Catalog.builtIn.get? name = some d := by
  rw [catalogInUse, Catalog.effective, Dict.get?_update] at hd
  have hrel := rel_catalog (ofTable_eq_ok h) name
  generalize (declared t).get? name = v?, s.dialects.get? name = d? at hrel hd ⊢
  cases hrel with
  | none =>
    rw [Option.none_or] at hd
    exact .inr ⟨rfl, hd⟩
  | some hvd =>
    cases hd
    exact .inl ⟨_, rfl, hvd⟩

theorem silent_catalogInUse_iff (h : (ofTable source? t).outcome = .ok s) {name : String}
    {d : Dialect} (hd : s.catalogInUse.get? name = some d) : d.Silent ↔ Silences t name := by
  unfold Silences
  obtain ⟨v, hv, hvd⟩ | ⟨hnone, hbase⟩ := get?_catalogInUse h hd
  · rw [hv, silent_dialectOf_iff hvd]
    simp
  · rw [hnone]
    constructor
    · exact fun hsilent => absurd hsilent (builtIn_not_silent hbase)
    · rintro ⟨v, hv, -⟩
      cases hv

/-- Of the dialects in use after settings are accepted, those without an opener are the built-in
ones whose table gives nothing but empty openers. A file is read as plain code throughout if its
dialect is one of them, and in no other case. -/
theorem silent_iff (h : (ofTable source? t).outcome = .ok s) :
    (∀ name d, s.catalogInUse.get? name = some d → (d.Silent ↔ Silences t name)) ∧
    (∀ path openers, s.catalogInUse.openersFor? path = some openers →
      ((∀ cs, Line.classify openers cs = .code) ↔
        ∃ name d, s.catalogInUse.resolve? path = some d ∧ s.catalogInUse.get? name = some d ∧
          Silences t name)) := by
  refine ⟨fun name d hd => silent_catalogInUse_iff h hd, fun path openers hopeners => ?_⟩
  obtain ⟨d, hd, rfl⟩ := Option.map_eq_some_iff.mp hopeners
  obtain ⟨name, hname⟩ := Catalog.exists_get?_of_resolve? hd
  rw [Line.forall_classify_eq_code_iff]
  constructor
  · intro hsilent
    exact ⟨name, d, hd, hname, (silent_catalogInUse_iff h hname).mp hsilent⟩
  · rintro ⟨name', d', hd', hname', hsilences⟩
    rw [Option.some.inj (hd.symm.trans hd')]
    exact (silent_catalogInUse_iff h hname').mpr hsilences

/-- Settings that change three dialects: of one that is built in the openers are taken away, of
another the description is given, and one is new. -/
def threeDialects : Toml.Table :=
  [("dialects", .table [
    ("go", .table [(openersKey, .array [.string ""])]),
    ("python", .table [(descriptionKey, .string "Python")]),
    ("batch", .table [(openersKey, .array [.string "", .string "rem"]),
      (extensionsKey, .array [.string ".bat"])])])]

theorem silent_iff_threeDialects : ∃ s : Settings, (ofTable none threeDialects).outcome = .ok s ∧
    (∀ name d, s.catalogInUse.get? name = some d → (d.Silent ↔ Silences threeDialects name)) ∧
    (∀ path openers, s.catalogInUse.openersFor? path = some openers →
      ((∀ cs, Line.classify openers cs = .code) ↔
        ∃ name d, s.catalogInUse.resolve? path = some d ∧ s.catalogInUse.get? name = some d ∧
          Silences threeDialects name)) := by
  obtain ⟨s, hs⟩ := Steps.exists_of_isOk
    (by decide +kernel : (ofTable none threeDialects).outcome.isOk = true)
  exact ⟨s, hs, silent_iff hs⟩

/-- The built-in dialect of Go without an opener. -/
def goWithoutOpeners : Toml.Table :=
  [("dialects", .table [("go", .table [(openersKey, .array [])])])]

/-- It is accepted, and then every line of a file of Go is plain code. -/
theorem openersFor?_goWithoutOpeners :
    ((ofTable none goWithoutOpeners).outcome.map fun s =>
      s.catalogInUse.openersFor? (.ofString "a.go")) = .ok (some []) ∧
    ∀ cs, Line.classify [] cs = .code := by
  refine ⟨by decide +kernel, Line.forall_classify_eq_code_iff.mpr nofun⟩

end Settings
end FixturePragmas
