import FixturePragmas.Proofs.Settings
import FixturePragmas.Proofs.Settings.Acceptance

/-!
# Routes to settings

Settings stand in a document of their own, or in a section of a document that is shared, and their
file is found in a directory or named. What a directory holds for the program is the value that
stands for the settings, and the file that it stands in (`Settings.Holds`); a document of its own
comes before the shared one, whatever this is. On each route the outcome depends on the value alone,
and the file is its source (`Settings.givenBy`). The routes differ only where a shared document has
no section: then nothing is found, but a named file is a source without dialects
(`Settings.load_routes`).
-/

namespace FixturePragmas.Settings

/-- What comes of a value that stands for the settings in the file at `path`. -/
def givenBy (path : Path) : Toml.Value → Except LoadFault Settings
  | .table t => ((ofTable none t).outcome.map fun s => ⟨s.dialects, some path⟩).mapError .settings
  | _ => .error (.settings .sectionNotATable)

/-- Whether a shared document has no section for this program. -/
def LacksSection (document : Toml.Table) : Prop :=
  ∀ sections, document.lookup sectionsKey = some (.table sections) →
    sections.lookup sectionName = none

/-- What the directory `dir` holds for this program: the value that stands for the settings with its
file, or nothing. -/
inductive Holds (fs : FileSystem) (dir : Path) : Option (Path × Toml.Value) → Prop
  | own {t : Toml.Table} (hown : fs.isFile (dir.join ownFileName) = .ok true)
    (ht : readDocument fs (dir.join ownFileName) = .ok t) :
    Holds fs dir (some (dir.join ownFileName, .table t))
  | shared {document sections : Toml.Table} {v : Toml.Value}
    (hown : fs.isFile (dir.join ownFileName) = .ok false)
    (hshared : fs.isFile (dir.join sharedFileName) = .ok true)
    (hdocument : readDocument fs (dir.join sharedFileName) = .ok document)
    (hsections : document.lookup sectionsKey = some (.table sections))
    (hv : sections.lookup sectionName = some v) :
    Holds fs dir (some (dir.join sharedFileName, v))
  | noSection {document : Toml.Table} (hown : fs.isFile (dir.join ownFileName) = .ok false)
    (hshared : fs.isFile (dir.join sharedFileName) = .ok true)
    (hdocument : readDocument fs (dir.join sharedFileName) = .ok document)
    (hlacks : LacksSection document) : Holds fs dir none
  | noFile (hown : fs.isFile (dir.join ownFileName) = .ok false)
    (hshared : fs.isFile (dir.join sharedFileName) = .ok false) : Holds fs dir none

/-- Whether the search in the directory `dir` ends at the file `path`: at the directory's own file,
or at its shared one unless that is a document without the section. -/
inductive EndsAt (fs : FileSystem) (dir : Path) : Path → Prop
  | own (hown : fs.isFile (dir.join ownFileName) = .ok true) : EndsAt fs dir (dir.join ownFileName)
  | shared (hown : fs.isFile (dir.join ownFileName) = .ok false)
    (hshared : fs.isFile (dir.join sharedFileName) = .ok true)
    (hsection : ∀ document, readDocument fs (dir.join sharedFileName) = .ok document →
      ¬LacksSection document) : EndsAt fs dir (dir.join sharedFileName)

variable {fs : FileSystem} {path dir : Path} {document t : Toml.Table} {v : Toml.Value}

/-! ### Sections -/

theorem section?_eq_none_iff : section? document = none ↔ LacksSection document := by
  unfold section? LacksSection
  split
  · next sections h =>
    rw [h]
    constructor
    · rintro hnone _ ⟨⟩
      exact hnone
    · exact fun hlacks => hlacks sections rfl
  · next hno => exact ⟨fun _ sections h => absurd h (hno sections), fun _ => rfl⟩

theorem section?_eq_some_iff : section? document = some v ↔
    ∃ sections, document.lookup sectionsKey = some (.table sections) ∧
      sections.lookup sectionName = some v := by
  unfold section?
  split
  · next sections h =>
    rw [h]
    constructor
    · exact fun hv => ⟨sections, rfl, hv⟩
    · rintro ⟨_, ⟨⟩, hv⟩
      exact hv
  · next hno =>
    constructor
    · exact nofun
    · rintro ⟨sections, h, -⟩
      exact absurd h (hno sections)

/-! ### Files -/

theorem outcome_ofFile (fs : FileSystem) (path : Path) :
    (ofFile fs path).outcome = readDocument fs path >>= fun document =>
      (tableIn path document).mapError .settings >>= fun t => givenBy path (.table t) := by
  have hgiven (t : Toml.Table) :
      (ofTable (some path) t).outcome.mapError .settings = givenBy path (.table t) := by
    rw [givenBy, outcome_ofTable, outcome_ofTable]
    cases (catalog t).outcome <;> rfl
  simp only [ofFile, Journal.outcome_bind, Journal.outcome_ofExcept, Journal.outcome_write,
    Journal.outcome_mapError, hgiven]
  rfl

theorem outcome_ofFile_of_document (hdocument : readDocument fs path = .ok document) :
    (ofFile fs path).outcome =
      (tableIn path document).mapError .settings >>= fun t => givenBy path (.table t) := by
  rw [outcome_ofFile, hdocument]
  rfl

/-- A file with a name of its own is read as a whole. -/
theorem ofFile_own (hname : path.name ≠ sharedFileName) (ht : readDocument fs path = .ok t) :
    (ofFile fs path).outcome = givenBy path (.table t) := by
  rw [outcome_ofFile_of_document ht, tableIn, if_neg hname]
  rfl

/-- Of a shared file the section is read. -/
theorem ofFile_shared (hname : path.name = sharedFileName)
    (hdocument : readDocument fs path = .ok document) (hv : section? document = some v) :
    (ofFile fs path).outcome = givenBy path v := by
  rw [outcome_ofFile_of_document hdocument, tableIn, if_pos hname, hv]
  cases v <;> rfl

theorem ofFile_of_lacksSection (hname : path.name = sharedFileName)
    (hdocument : readDocument fs path = .ok document) (hlacks : LacksSection document) :
    (ofFile fs path).outcome = .ok ⟨.empty, some path⟩ := by
  have hsection := section?_eq_none_iff.mpr hlacks
  rw [outcome_ofFile_of_document hdocument, tableIn, if_pos hname, hsection]
  rfl

/-- Under another path of the same name a file gives the same, but for its source. -/
theorem ofFile_of_same {path' : Path} (hname : path'.name = path.name)
    (hsame : readDocument fs path' = readDocument fs path) :
    (ofFile fs path').outcome = (ofFile fs path).outcome.map fun s => ⟨s.dialects, some path'⟩ := by
  have htable (document : Toml.Table) : tableIn path' document = tableIn path document := by
    rw [tableIn, tableIn, hname]
  have hgiven (t : Toml.Table) : givenBy path' (.table t) =
      (givenBy path (.table t)).map fun s => ⟨s.dialects, some path'⟩ := by
    simp only [givenBy]
    cases (ofTable none t).outcome <;> rfl
  rw [outcome_ofFile, outcome_ofFile, hsame]
  simp only [htable, hgiven]
  cases readDocument fs path with
  | error fault => rfl
  | ok document =>
    dsimp only [bind, Except.bind]
    cases tableIn path document <;> rfl

/-! ### The search -/

theorem outcome_load_none (fs : FileSystem) (dir : Path) :
    (load fs none dir).outcome = discover fs dir >>= fun found? =>
      found?.elim (.ok default) fun path => (ofFile fs path).outcome := by
  rw [load, Journal.outcome_bind, Journal.outcome_ofExcept]
  refine congrArg _ (funext fun found? => ?_)
  cases found? <;> rfl

/-- The search reads a shared file to see whether it ends there, and fails as the file would. -/
theorem load_of_endsAt (h : EndsAt fs dir path) :
    (load fs none dir).outcome = (ofFile fs path).outcome := by
  rw [outcome_load_none, discover_eq]
  cases h with
  | own hown =>
    rw [hown]
    rfl
  | shared hown hshared hsection =>
    rw [hown, hshared]
    dsimp only
    -- the search reads the document and the load reads it again, with the same answer
    cases hdocument : readDocument fs (dir.join sharedFileName) with
    | error fault =>
      rw [outcome_ofFile, hdocument]
      rfl
    | ok document =>
      have hsome : (section? document).isSome = true := by
        rw [Option.isSome_iff_ne_none, ne_eq, section?_eq_none_iff]
        exact hsection document hdocument
      show Option.elim (if _ then _ else _) _ _ = _
      rw [if_pos hsome]
      rfl

theorem endsAt_of_holds (h : Holds fs dir (some (path, v))) : EndsAt fs dir path := by
  cases h with
  | own hown _ => exact .own hown
  | shared hown hshared hdocument hsections hv =>
    refine .shared hown hshared fun document' hdocument' hlacks => ?_
    obtain rfl := Except.ok.inj (hdocument.symm.trans hdocument')
    rw [hlacks _ hsections] at hv
    cases hv

theorem ofFile_of_holds (h : Holds fs dir (some (path, v))) :
    (ofFile fs path).outcome = givenBy path v := by
  cases h with
  | own _ ht =>
    refine ofFile_own ?_ ht
    rw [Path.name_join]
    decide
  | shared _ _ hdocument hsections hv =>
    exact ofFile_shared (Path.name_join _ _) hdocument
      (section?_eq_some_iff.mpr ⟨_, hsections, hv⟩)

theorem load_of_holds_nothing (h : Holds fs dir none) :
    (load fs none dir).outcome = .ok default := by
  rw [outcome_load_none, discover_eq]
  cases h with
  | noSection hown hshared hdocument hlacks =>
    rw [hown, hshared, hdocument]
    show Option.elim (if _ then _ else _) _ _ = _
    rw [section?_eq_none_iff.mpr hlacks]
    rfl
  | noFile hown hshared =>
    rw [hown, hshared]
    rfl

/-- Settings that are looked for are those that the directory holds, in the first place in its own
file, and in the second in the section of its shared one. The file at which the search ends gives
the same if it is named, and a named shared file without the section gives no dialects. -/
theorem load_routes (fs : FileSystem) (dir : Path) :
    (∀ path v, Holds fs dir (some (path, v)) → (load fs none dir).outcome = givenBy path v) ∧
      (Holds fs dir none → (load fs none dir).outcome = .ok default) ∧
      (∀ path path' dir', EndsAt fs dir path → path'.name = path.name →
        readDocument fs path' = readDocument fs path →
          (load fs (some path') dir').outcome =
            (load fs none dir).outcome.map fun s => ⟨s.dialects, some path'⟩) ∧
      ∀ path document dir', path.name = sharedFileName → readDocument fs path = .ok document →
        LacksSection document → (load fs (some path) dir').outcome = .ok ⟨.empty, some path⟩ := by
  refine ⟨fun path v h => ?_, load_of_holds_nothing, fun path path' dir' h hname hsame => ?_,
    fun path document dir' hname hdocument hlacks => ofFile_of_lacksSection hname hdocument hlacks⟩
  · rw [load_of_endsAt (endsAt_of_holds h), ofFile_of_holds h]
  · rw [load_of_endsAt h]
    exact ofFile_of_same hname hsame

/-- A directory with settings of its own beside a shared file that is no document. -/
def ownBesideBroken : FileSystem :=
  .ofProbes ⟨.single, ["w"]⟩
    [⟨⟨.single, ["w", "pragmascan.toml"]⟩, .ok (Text.Utf8.encode "[dialects]\ngo = 1\n".toList)⟩,
      ⟨⟨.single, ["w", "pyproject.toml"]⟩, .ok (Text.Utf8.encode "[tool".toList)⟩]

/-- A directory with a shared file, and a directory where the file of its own would be. -/
def sharedOnly : FileSystem :=
  .ofProbes ⟨.single, ["w"]⟩
    [⟨⟨.single, ["w", "pragmascan.toml"]⟩, .error .isADirectory⟩,
      ⟨⟨.single, ["w", "pyproject.toml"]⟩,
        .ok (Text.Utf8.encode "[tool.pragmascan.dialects]\ngo = 1\n".toList)⟩,
      ⟨⟨.relative, ["pyproject.toml"]⟩, .ok (Text.Utf8.encode "[tool.other]\n".toList)⟩]

/-- A broken shared file and a directory in the place of a file do not count, and a named file
without a section is a source. -/
theorem load_routes_twoDirectories :
    (∃ t, readDocument ownBesideBroken ⟨.single, ["w", "pragmascan.toml"]⟩ = .ok t ∧
      (load ownBesideBroken none ⟨.single, ["w"]⟩).outcome =
        givenBy ⟨.single, ["w", "pragmascan.toml"]⟩ (.table t) ∧
      (load ownBesideBroken (some ⟨.single, ["w", "pragmascan.toml"]⟩) ⟨.single, []⟩).outcome =
        (load ownBesideBroken none ⟨.single, ["w"]⟩).outcome.map fun s =>
          ⟨s.dialects, some ⟨.single, ["w", "pragmascan.toml"]⟩⟩) ∧
    (∃ v, Holds sharedOnly ⟨.single, ["w"]⟩ (some (⟨.single, ["w", "pyproject.toml"]⟩, v)) ∧
      (load sharedOnly none ⟨.single, ["w"]⟩).outcome =
        givenBy ⟨.single, ["w", "pyproject.toml"]⟩ v) ∧
    (load sharedOnly (some ⟨.relative, ["pyproject.toml"]⟩) ⟨.single, ["w"]⟩).outcome =
      .ok ⟨.empty, some ⟨.relative, ["pyproject.toml"]⟩⟩ := by
  obtain ⟨hheld, -, -, hlacking⟩ := load_routes sharedOnly ⟨.single, ["w"]⟩
  refine ⟨?_, ?_, ?_⟩
  · obtain ⟨t, ht⟩ := Steps.exists_of_isOk (by decide +kernel :
      (readDocument ownBesideBroken ⟨.single, ["w", "pragmascan.toml"]⟩).isOk = true)
    have hown : ownBesideBroken.isFile ⟨.single, ["w", "pragmascan.toml"]⟩ = .ok true := by
      decide +kernel
    obtain ⟨hheld', -, hnamed, -⟩ := load_routes ownBesideBroken ⟨.single, ["w"]⟩
    exact ⟨t, ht, hheld' _ _ (.own hown ht), hnamed _ _ _ (.own hown) rfl rfl⟩
  · obtain ⟨document, hdocument, hsome⟩ := Steps.map_eq_ok_iff.mp (by decide +kernel :
      (readDocument sharedOnly ⟨.single, ["w", "pyproject.toml"]⟩).map
        (fun document => (section? document).isSome) = .ok true)
    obtain ⟨v, hv⟩ := Option.isSome_iff_exists.mp hsome
    obtain ⟨sections, hsections, hv⟩ := section?_eq_some_iff.mp hv
    have hholds : Holds sharedOnly ⟨.single, ["w"]⟩
        (some (⟨.single, ["w", "pyproject.toml"]⟩, v)) :=
      .shared (by decide +kernel) (by decide +kernel) hdocument hsections hv
    exact ⟨v, hholds, hheld _ v hholds⟩
  · obtain ⟨document, hdocument, hnone⟩ := Steps.map_eq_ok_iff.mp (by decide +kernel :
      (readDocument sharedOnly ⟨.relative, ["pyproject.toml"]⟩).map
        (fun document => (section? document).isNone) = .ok true)
    have hlacks := section?_eq_none_iff.mp (Option.isNone_iff_eq_none.mp hnone)
    exact hlacking _ document _ rfl hdocument hlacks

end FixturePragmas.Settings
