import FixturePragmas.Proofs.Journal
import FixturePragmas.Proofs.Text.Utf8
import FixturePragmas.Settings.Load

/-!
# How settings fail to load

Settings come from one of a few files (`Settings.candidates`). What is wrong with the settings is
reported as a fault in them. The faults that are not are known exactly: bytes that are not UTF-8 and
tables that clash, in a file that is read (`Settings.DocumentFault`), and a file system that does
not tell whether there is a file (`Settings.SearchFault`). A search, and a load, fails with one of
these where it occurs, and in no other case (`Settings.discover_eq_error_iff`,
`Settings.load_eq_error_iff`).
-/

namespace FixturePragmas

/-! ### Files -/

namespace FileSystem

variable {fs : FileSystem} {path : Path}

theorem read_eq (fs : FileSystem) (h : path.hasNul = false) :
    fs.read path = (fs.bytes path).mapError fun fault => .system ⟨fault, path⟩ := by
  rw [read, h]
  rfl

theorem bytes_of_read {bs : List UInt8} (h : fs.read path = .ok bs) : fs.bytes path = .ok bs := by
  rw [read] at h
  split at h
  · cases h
  · exact Text.Utf8.mapError_eq_ok_iff.mp h

theorem hasNul_eq_false_of_isFile (h : fs.isFile path = .ok true) : path.hasNul = false := by
  rw [isFile] at h
  cases hnul : path.hasNul with
  | false => rfl
  | true =>
    rw [hnul, if_pos rfl] at h
    cases h

end FileSystem

/-! ### Settings -/

namespace Settings

open FileSystem (hasNul_eq_false_of_isFile)
open Steps (FailsAs)
open Text.Utf8 (encode)

/-- The files from which settings may be loaded. -/
def candidates (path? : Option Path) (dir : Path) : List Path :=
  match path? with
  | some path => [path]
  | none => [dir.join ownFileName, dir.join sharedFileName]

/-- Whether a fault is reported as one in the settings. -/
inductive LoadFault.Reported : LoadFault → Prop
  | settings (e : Error) : Reported (.settings e)

/-- The faults that are not reported when the document in the file at `path` is read. -/
inductive DocumentFault (fs : FileSystem) (path : Path) : LoadFault → Prop
  | malformed {bs : List UInt8} {m : Text.Utf8.Malformed} (hbytes : fs.bytes path = .ok bs)
    (hbs : Text.Utf8.decode bs = .error m) : DocumentFault fs path (.malformed m)
  | clash {cs : List Char} {c : Toml.Clash} (hbytes : fs.bytes path = .ok (encode cs))
    (hcs : Toml.parse (Text.unifyNewlines cs) = .error (.clash c)) :
    DocumentFault fs path (.clash c)

/-- The faults that are not reported when the directory `dir` is searched for a file of settings. -/
inductive SearchFault (fs : FileSystem) (dir : Path) : LoadFault → Prop
  | own {e : FileError} (hown : fs.isFile (dir.join ownFileName) = .error e) :
    SearchFault fs dir (.system e)
  | shared {e : FileError} (hown : fs.isFile (dir.join ownFileName) = .ok false)
    (hshared : fs.isFile (dir.join sharedFileName) = .error e) : SearchFault fs dir (.system e)
  | document {fault : LoadFault} (hown : fs.isFile (dir.join ownFileName) = .ok false)
    (hshared : fs.isFile (dir.join sharedFileName) = .ok true)
    (hfault : DocumentFault fs (dir.join sharedFileName) fault) : SearchFault fs dir fault

/-- The faults that are not reported when settings are loaded. -/
inductive UnreportedFault (fs : FileSystem) : Option Path → Path → LoadFault → Prop
  | named {path dir : Path} {fault : LoadFault} (hfault : DocumentFault fs path fault) :
    UnreportedFault fs (some path) dir fault
  | own {dir : Path} {fault : LoadFault} (hown : fs.isFile (dir.join ownFileName) = .ok true)
    (hfault : DocumentFault fs (dir.join ownFileName) fault) : UnreportedFault fs none dir fault
  | search {dir : Path} {fault : LoadFault} (hfault : SearchFault fs dir fault) :
    UnreportedFault fs none dir fault

variable {fs : FileSystem} {path dir : Path} {fault : LoadFault}

/-! ### Documents -/

/-- The reading of a document, as cases. -/
theorem readDocument_eq (hnul : path.hasNul = false) :
    readDocument fs path =
      match fs.bytes path with
      | .error fileFault => .error (.settings (.unreadable ⟨fileFault, path⟩))
      | .ok bs =>
        match Text.Utf8.decode bs with
        | .error m => .error (.malformed m)
        | .ok cs =>
          match Toml.parse (Text.unifyNewlines cs) with
          | .error .malformed => .error (.settings (.invalidToml path))
          | .error (.clash c) => .error (.clash c)
          | .ok t => .ok t := by
  rw [readDocument, FileSystem.read_eq fs hnul]
  cases fs.bytes path with
  | error fileFault => rfl
  | ok bs =>
    dsimp only [Except.mapError, bind, Except.bind]
    cases Text.Utf8.decode bs with
    | error m => rfl
    | ok cs =>
      dsimp only
      rcases Toml.parse (Text.unifyNewlines cs) with (_ | _) | _
      all_goals rfl

theorem readDocument_eq_error_iff (hnul : path.hasNul = false) (hfault : ¬fault.Reported) :
    readDocument fs path = .error fault ↔ DocumentFault fs path fault := by
  rw [readDocument_eq hnul]
  constructor
  · intro h
    split at h
    · cases h
      exact absurd (.settings _) hfault
    · next bs hbytes =>
      split at h
      · next m hbs =>
        cases h
        exact .malformed hbytes hbs
      · next cs hbs =>
        obtain rfl := Text.Utf8.decode_eq_ok_iff.mp hbs
        split at h
        · cases h
          exact absurd (.settings _) hfault
        · next c hcs =>
          cases h
          exact .clash hbytes hcs
        · cases h
  · intro h
    cases h with
    | malformed hbytes hbs =>
      rw [hbytes]
      dsimp only
      rw [hbs]
    | clash hbytes hcs =>
      rw [hbytes]
      dsimp only
      rw [Text.Utf8.decode_eq_ok_iff.mpr rfl]
      dsimp only
      rw [hcs]

/-- Behind the document there are only faults in the settings. -/
theorem ofFile_eq_error_iff (hnul : path.hasNul = false) (hfault : ¬fault.Reported) :
    (ofFile fs path).outcome = .error fault ↔ DocumentFault fs path fault := by
  rw [← readDocument_eq_error_iff hnul hfault]
  simp only [ofFile, Journal.outcome_bind, Journal.outcome_ofExcept, Journal.outcome_write,
    Journal.outcome_mapError]
  have hrest (t : Toml.Table) : FailsAs LoadFault.Reported
      ((tableIn path t).mapError .settings >>= fun t' => .ok () >>= fun _ =>
        (ofTable (some path) t').outcome.mapError LoadFault.settings) :=
    .bind (.mapError fun e _ => .settings e) fun _ _ => .bind (.ok ()) fun _ _ =>
      .mapError fun e _ => .settings e
  rw [Steps.bind_eq_error_iff]
  constructor
  · rintro (hdoc | ⟨t, -, h⟩)
    · exact hdoc
    · exact absurd (hrest t fault h) hfault
  · exact .inl

/-! ### The search -/

/-- The search for a file of settings, as cases. -/
theorem discover_eq (fs : FileSystem) (dir : Path) :
    discover fs dir =
      match fs.isFile (dir.join ownFileName) with
      | .error e => .error (.system e)
      | .ok true => .ok (some (dir.join ownFileName))
      | .ok false =>
        match fs.isFile (dir.join sharedFileName) with
        | .error e => .error (.system e)
        | .ok false => .ok none
        | .ok true => (readDocument fs (dir.join sharedFileName)).map fun t =>
            if (section? t).isSome then some (dir.join sharedFileName) else none := by
  rw [discover]
  dsimp only
  -- the cases of the equation, one answer of the file system after the other
  rcases fs.isFile (dir.join ownFileName) with e | (_ | _)
  · rfl
  · rcases fs.isFile (dir.join sharedFileName) with e | (_ | _)
    · rfl
    · rfl
    · cases readDocument fs (dir.join sharedFileName) with
      | error e => rfl
      | ok t =>
        show (if _ then _ else _) = Except.ok (if _ then _ else _)
        split <;> rfl
  · rfl

theorem discover_eq_error_iff (hfault : ¬fault.Reported) :
    discover fs dir = .error fault ↔ SearchFault fs dir fault := by
  rw [discover_eq]
  constructor
  · intro h
    split at h
    · next e hown =>
      cases h
      exact .own hown
    · cases h
    · next hown =>
      split at h
      · next e hshared =>
        cases h
        exact .shared hown hshared
      · cases h
      · next hshared =>
        exact .document hown hshared ((readDocument_eq_error_iff
          (hasNul_eq_false_of_isFile hshared) hfault).mp (Steps.map_eq_error_iff.mp h))
  · intro h
    cases h with
    | own hown => rw [hown]
    | shared hown hshared => rw [hown, hshared]
    | document hown hshared hdocument =>
      rw [hown, hshared]
      exact Steps.map_eq_error_iff.mpr ((readDocument_eq_error_iff
        (hasNul_eq_false_of_isFile hshared) hfault).mpr hdocument)

/-- What is found is the directory's own file, or its shared one with a document that was read. -/
theorem discover_eq_some {p : Path} (h : discover fs dir = .ok (some p)) :
    p.hasNul = false ∧ (p = dir.join ownFileName ∧ fs.isFile p = .ok true ∨
      p = dir.join sharedFileName ∧ ∃ t, readDocument fs p = .ok t) := by
  rw [discover_eq] at h
  split at h
  · cases h
  · next hown =>
    cases h
    exact ⟨hasNul_eq_false_of_isFile hown, .inl ⟨rfl, hown⟩⟩
  · split at h
    · cases h
    · cases h
    · next hshared =>
      cases hdoc : readDocument fs (dir.join sharedFileName) with
      | error e =>
        rw [hdoc] at h
        cases h
      | ok t =>
        rw [hdoc] at h
        have hif : (if _ then _ else _) = some p := Except.ok.inj h
        split at hif
        · cases hif
          exact ⟨hasNul_eq_false_of_isFile hshared, .inr ⟨rfl, t, hdoc⟩⟩
        · cases hif

/-! ### The load -/

variable {path? : Option Path}

theorem DocumentFault.not_reported (h : DocumentFault fs path fault) : ¬fault.Reported := by
  cases h <;> exact nofun

theorem UnreportedFault.not_reported (h : UnreportedFault fs path? dir fault) :
    ¬fault.Reported := by
  cases h with
  | named hdoc => exact hdoc.not_reported
  | own _ hdoc => exact hdoc.not_reported
  | search hsearch =>
    cases hsearch with
    | own _ => exact nofun
    | shared _ _ => exact nofun
    | document _ _ hdoc => exact hdoc.not_reported

theorem load_eq_error_iff (hnul : ∀ p ∈ path?, p.hasNul = false) (hfault : ¬fault.Reported) :
    (load fs path? dir).outcome = .error fault ↔ UnreportedFault fs path? dir fault := by
  cases path? with
  | some path =>
    rw [load, pure_bind, ofFile_eq_error_iff (hnul path rfl) hfault]
    constructor
    · exact .named
    · rintro (hdoc | _ | _)
      exact hdoc
  | none =>
    rw [load, Journal.outcome_bind, Journal.outcome_ofExcept, Steps.bind_eq_error_iff]
    constructor
    · rintro (hsearch | ⟨_ | p, hfound, h⟩)
      · exact .search ((discover_eq_error_iff hfault).mp hsearch)
      · cases h
      · obtain ⟨hpnul, ⟨rfl, hown⟩ | ⟨rfl, t, hdoc⟩⟩ := discover_eq_some hfound
        · exact .own hown ((ofFile_eq_error_iff hpnul hfault).mp h)
        · -- the document was read before, so it has no fault
          have hno := (readDocument_eq_error_iff hpnul hfault).mpr
            ((ofFile_eq_error_iff hpnul hfault).mp h)
          rw [hdoc] at hno
          cases hno
    · rintro (_ | ⟨hown, hdoc⟩ | hsearch)
      · refine .inr ⟨some (dir.join ownFileName), by rw [discover_eq, hown], ?_⟩
        exact (ofFile_eq_error_iff (hasNul_eq_false_of_isFile hown) hfault).mpr hdoc
      · exact .inl ((discover_eq_error_iff hfault).mpr hsearch)

/-- Whether a fault has its cause in what the settings say, or in the file system. -/
inductive LoadFault.Expected : LoadFault → Prop
  | settings (e : Error) : Expected (.settings e)
  | clash (c : Toml.Clash) : Expected (.clash c)
  | system (e : FileError) : Expected (.system e)

/-- From files that hold text settings load, or fail with a fault of one of three kinds. -/
theorem load_failsAs {path? : Option Path} {dir : Path} (hnul : ∀ p ∈ path?, p.hasNul = false)
    (htext : ∀ p ∈ candidates path? dir, ∀ bs, fs.bytes p = .ok bs → ∃ cs, bs = encode cs) :
    FailsAs LoadFault.Expected (load fs path? dir).outcome := by
  -- the bytes are those of a text, so the one kind of fault left in a document is a clash
  have hdocument : ∀ p ∈ candidates path? dir, ∀ fault, DocumentFault fs p fault →
      fault.Expected := by
    rintro p hp _ (⟨hbytes, hbs⟩ | _)
    · obtain ⟨cs, rfl⟩ := htext p hp _ hbytes
      rw [Text.Utf8.decode_eq_ok_iff.mpr rfl] at hbs
      cases hbs
    · exact .clash _
  intro fault h
  by_cases hfault : fault.Reported
  · obtain ⟨e⟩ := hfault
    exact .settings e
  · cases (load_eq_error_iff hnul hfault).mp h with
    | named hdoc => exact hdocument _ (by simp [candidates]) _ hdoc
    | own _ hdoc => exact hdocument _ (by simp [candidates]) _ hdoc
    | search hsearch =>
      cases hsearch with
      | own _ => exact .system _
      | shared _ _ => exact .system _
      | document _ _ hdoc => exact hdocument _ (by simp [candidates]) _ hdoc

end Settings

end FixturePragmas
