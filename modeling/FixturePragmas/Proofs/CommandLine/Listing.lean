import FixturePragmas.Proofs.CommandLine.Json
import FixturePragmas.Proofs.Settings.Declarable
import FixturePragmas.Toml.OfJson

/-!
# A listing of dialects as settings

The JSON listing holds the dialects in use, each once, in increasing order of their names, and says
all there is to each (`ListRequest.transcript_run`). So it can be read as settings, every entry as
the table of its other members under its name (`ListRequest.settingsIn?`), and what is read is the
dialects written out (`ListRequest.settingsIn?_listing`). Settings read from a listing are therefore
accepted and leave the same dialects in use, and those read from the entries in the order of the
catalog the same catalog (`ListRequest.listing_as_settings`).
-/

namespace FixturePragmas

/-! ### Dialects in JSON -/

theorem Toml.Value.ofJson_strings (ss : List String) :
    ofJson (Json.strings ss) = .array (ss.map .string) := by
  show Value.array (ofJsons (ss.map Json.string)) = _
  congr 1
  induction ss with
  | nil => rfl
  | cons s ss ih => rw [List.map_cons, ofJsons, ih, ofJson, List.map_cons]

theorem Json.isExact_strings (ss : List String) : (Json.strings ss).isExact = true := by
  refine areExact_iff.mpr fun v hv => ?_
  obtain ⟨s, -, rfl⟩ := List.mem_map.mp hv
  rfl

theorem Dialect.isExact_toJson (d : Dialect) : d.toJson.isExact = true := by
  simp [toJson, Json.isExact, Json.membersAreExact, Json.isExact_strings]

namespace CommandLine.ListRequest

open Settings (writtenOut fieldsOf)

/-- An entry of a listing, read as settings: under its name the table of its other members. -/
def entry? (v : Json) : Option (String × Toml.Value) :=
  match v.member? "name" with
  | some (.string name) =>
    some (name, .table (Toml.Table.ofMembers (v.members.filter fun m => m.1 ≠ "name")))
  | _ => none

/-- A listing, read as settings. -/
def settingsIn? (v : Json) : Option Toml.Table :=
  (v.items.mapM entry?).map fun es => [("dialects", .table es)]

/-- A listing of some dialects. -/
def listing (ds : List Dialect) : Json := .array (ds.map Dialect.toJson)

theorem entry?_toJson (d : Dialect) : entry? d.toJson = some (d.name, .table (fieldsOf d)) := by
  show some (d.name, Toml.Value.table (Toml.Table.ofMembers
    [("description", .string d.description), ("comment_prefixes", .strings d.openers),
      ("extensions", .strings d.extensions), ("filenames", .strings d.fileNames)])) = _
  simp only [Toml.Table.ofMembers, Toml.Value.ofJson_strings]
  rfl

/-- A listing of dialects says what these are when they are written out. -/
theorem settingsIn?_listing (ds : List Dialect) :
    settingsIn? (listing ds) = some (writtenOut ds) := by
  have hentries : (ds.map Dialect.toJson).mapM entry? =
      some (ds.map fun d => (d.name, .table (fieldsOf d))) := by
    induction ds with
    | nil => rfl
    | cons d ds ih =>
      rw [List.map_cons, List.mapM_cons, ih, entry?_toJson]
      rfl
  show ((ds.map Dialect.toJson).mapM entry?).map _ = _
  rw [hentries]
  rfl

/-! ### The listing -/

variable {source? : Option Path} {t : Toml.Table} {s : Settings}

theorem perm_dialectsOf (c : Catalog) : (dialectsOf c).Perm c.values := List.mergeSort_perm _ _

theorem pairwise_dialectsOf (h : (Settings.ofTable source? t).outcome = .ok s) :
    (dialectsOf s.catalogInUse).Pairwise fun a b => a.name < b.name := by
  have hnodup : (s.catalogInUse.values.map Dialect.name).Nodup := by
    have hkeys := s.catalogInUse.nodup
    rwa [← Settings.map_values_catalogInUse h, List.map_map] at hkeys
  refine Dict.pairwise_lt_mergeSort (fun a b => ?_) hnodup
  rw [Bool.not_eq_true', decide_eq_false_iff_not, String.not_lt]

/-- A listing in JSON ends well if the settings load, and its output is decoded to the listing of
the dialects in use. -/
theorem transcript_run (g : Log.Logger) {fs : FileSystem} (ctx : Context) {r : ListRequest}
    (hformat : r.format = .json)
    (hload : (Settings.load fs r.settings? fs.workingDirectory).outcome = .ok s) :
    (transcript g (run fs ctx r)).ending = .exited 0 ∧
      Json.decode (transcript g (run fs ctx r)).output =
        some (listing (dialectsOf s.catalogInUse)) := by
  have hsettings : (loadSettings fs r.settings?).outcome = .ok s := by
    rw [outcome_loadSettings, hload]
    rfl
  have hexact : (listing (dialectsOf s.catalogInUse)).isExact = true := by
    refine Json.areExact_iff.mpr fun v hv => ?_
    obtain ⟨d, -, rfl⟩ := List.mem_map.mp hv
    exact d.isExact_toJson
  -- one piece is written in all, behind notes that do not go to the output
  have hpieces : output ctx r (dialectsOf s.catalogInUse) =
      [ctx.console.print ((listing (dialectsOf s.catalogInUse)).render .indented).toList] := by
    rw [output, hformat]
    rfl
  have houtcome : (run fs ctx r).outcome = .ok () := by
    rw [run, Journal.outcome_bind, hsettings]
    rfl
  refine ⟨?_, ?_⟩
  · show endingOf (run fs ctx r).outcome = _
    rw [houtcome]
    rfl
  · have hentries := Journal.entries_bind_of_ok hsettings fun s =>
      (Journal.writeAll ((output ctx r (dialectsOf s.catalogInUse)).map .write) : Run Unit)
    show Json.decode ((run fs ctx r).entries.flatMap Event.output) = _
    rw [run, hentries, List.flatMap_append, (silent_loadSettings fs r.settings?).output,
      List.nil_append, hpieces]
    have hshown := ScanRequest.shown_render ctx.console .indented hexact
    show Json.decode (ctx.console.shown _ ++ []) = _
    rw [List.append_nil]
    exact (congrArg Json.decode hshown).trans (Json.decode_renderAt .indented hexact (by decide))

/-! ### Back to settings -/

/-- A listing of the dialects in use holds each of them once, in increasing order of their names.
Read as settings it is accepted, and leaves the same names with the same dialects in use; and if its
entries are put in the order of the catalog, it leaves the same catalog, so that every path has the
dialect it had. -/
theorem listing_as_settings (h : (Settings.ofTable source? t).outcome = .ok s) :
    (∀ (g : Log.Logger) (fs : FileSystem) (ctx : Context) (r : ListRequest), r.format = .json →
      (Settings.load fs r.settings? fs.workingDirectory).outcome = .ok s →
      (transcript g (run fs ctx r)).ending = .exited 0 ∧
        Json.decode (transcript g (run fs ctx r)).output =
          some (listing (dialectsOf s.catalogInUse))) ∧
    (dialectsOf s.catalogInUse).Perm s.catalogInUse.values ∧
    ((dialectsOf s.catalogInUse).Pairwise fun a b => a.name < b.name) ∧
    (∃ t', settingsIn? (listing (dialectsOf s.catalogInUse)) = some t' ∧
      ∀ source?', ∃ s', (Settings.ofTable source?' t').outcome = .ok s' ∧
        s'.catalogInUse.keys.Perm s.catalogInUse.keys ∧
        ∀ name, s'.catalogInUse.get? name = s.catalogInUse.get? name) ∧
    ∃ t', settingsIn? (listing s.catalogInUse.values) = some t' ∧
      ∀ source?', ∃ s', (Settings.ofTable source?' t').outcome = .ok s' ∧
        s'.catalogInUse = s.catalogInUse ∧
        ∀ path, s'.catalogInUse.resolve? path = s.catalogInUse.resolve? path := by
  have hvalues := Settings.declarable_of_mem_values h
  have hperm := perm_dialectsOf s.catalogInUse
  have hsame := Settings.get?_writtenOut h hperm
  refine ⟨fun g fs ctx r hformat hload => transcript_run g ctx hformat hload, hperm,
    pairwise_dialectsOf h, ⟨_, settingsIn?_listing _, fun source?' => ?_⟩,
    ⟨_, settingsIn?_listing _, fun source?' => ?_⟩⟩
  · have hlisted : ∀ d ∈ dialectsOf s.catalogInUse, Settings.Declarable d.name d := fun d hd =>
      hvalues d (hperm.mem_iff.mp hd)
    refine ⟨_, Settings.ofTable_writtenOut hlisted source?', ?_, hsame⟩
    exact Dict.keys_perm_of_get? hsame
  · have hcatalog := Settings.effective_writtenOut h
    refine ⟨_, Settings.ofTable_writtenOut hvalues source?', hcatalog, fun path => ?_⟩
    exact congrArg (Catalog.resolve? · path) hcatalog

/-- A directory whose settings are those that change three dialects. -/
def threeDialectsFile : FileSystem :=
  .ofProbes ⟨.single, ["w"]⟩
    [⟨⟨.single, ["w", "pragmascan.toml"]⟩,
      .ok (Text.Utf8.encode ("[dialects.go]\ncomment_prefixes = ['']\n".toList ++
        "[dialects.python]\ndescription = 'Python'\n".toList ++
        "[dialects.batch]\ncomment_prefixes = ['', 'rem']\nextensions = ['.bat']\n".toList))⟩]

theorem load_threeDialectsFile :
    (Settings.load threeDialectsFile none threeDialectsFile.workingDirectory).outcome =
      (Settings.ofTable (some ⟨.single, ["w", "pragmascan.toml"]⟩)
        Settings.threeDialects).outcome.mapError .settings := by
  decide +kernel

/-- One of the three is silent, so it would not be accepted if it were new. -/
theorem listing_as_settings_threeDialects :
    ∃ s : Settings,
      (Settings.ofTable (some ⟨.single, ["w", "pragmascan.toml"]⟩)
        Settings.threeDialects).outcome = .ok s ∧
      Json.decode (transcript .initial (run threeDialectsFile {} { format := .json })).output =
        some (listing (dialectsOf s.catalogInUse)) ∧
      ((dialectsOf s.catalogInUse).Pairwise fun a b => a.name < b.name) ∧
      ∃ t', settingsIn? (listing (dialectsOf s.catalogInUse)) = some t' ∧
        ∀ source?', ∃ s', (Settings.ofTable source?' t').outcome = .ok s' ∧
          s'.catalogInUse.keys.Perm s.catalogInUse.keys ∧
          ∀ name, s'.catalogInUse.get? name = s.catalogInUse.get? name := by
  obtain ⟨s, hs⟩ := Steps.exists_of_isOk (by decide +kernel :
    (Settings.ofTable (some ⟨.single, ["w", "pragmascan.toml"]⟩)
      Settings.threeDialects).outcome.isOk = true)
  have hload : (Settings.load threeDialectsFile none threeDialectsFile.workingDirectory).outcome =
      .ok s := by
    rw [load_threeDialectsFile, hs]
    rfl
  obtain ⟨hrun, -, hordered, hback, -⟩ := listing_as_settings hs
  exact ⟨s, hs, (hrun .initial _ {} { format := .json } rfl hload).2, hordered, hback⟩

end CommandLine.ListRequest

end FixturePragmas
