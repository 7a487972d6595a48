import FixturePragmas.CommandLine.Command
import FixturePragmas.Proofs.Settings

/-!
# What commands make of settings that do not load

A command loads its settings in the directory in which it runs. A fault in them is reported, and the
command ends with the code for settings. The faults that are not reported are those of the load
(`Settings.UnreportedFault`), and each of them ends the command as a fault without a message
(`loading_faults`).
-/

namespace FixturePragmas.CommandLine

open Settings (LoadFault SearchFault UnreportedFault)
open Text.Utf8 (encode)

theorem outcome_loadSettings (fs : FileSystem) (path? : Option Path) :
    (loadSettings fs path?).outcome =
      (Settings.load fs path? fs.workingDirectory).outcome.mapError stopOfLoadFault := rfl

variable {fs : FileSystem} {path? : Option Path}

theorem loadSettings_eq_error_iff {stop : Stop} :
    (loadSettings fs path?).outcome = .error stop ↔
      ∃ fault, (Settings.load fs path? fs.workingDirectory).outcome = .error fault ∧
        stopOfLoadFault fault = stop := by
  rw [outcome_loadSettings]
  cases (Settings.load fs path? fs.workingDirectory).outcome with
  | error fault => simp [Except.mapError]
  | ok s => simp [Except.mapError]

theorem not_reported_of_faulted {fault : LoadFault} {f : Fault}
    (h : stopOfLoadFault fault = .faulted f) : ¬fault.Reported := by
  rintro ⟨e⟩
  cases h

/-- Looking for settings and loading them fail with a fault in the settings or with one of the
faults known not to be reported, and with these exactly where they occur. A command reports the
former under the code for settings, and ends without a message at the latter. No fault is of both
kinds. -/
theorem loading_faults (fs : FileSystem) (path? : Option Path) (dir : Path)
    (hnul : ∀ p ∈ path?, p.hasNul = false) :
    (∀ fault : LoadFault, ¬fault.Reported →
      (Settings.discover fs dir = .error fault ↔ SearchFault fs dir fault) ∧
        ((Settings.load fs path? dir).outcome = .error fault ↔
          UnreportedFault fs path? dir fault)) ∧
    (∀ e, (Settings.load fs path? fs.workingDirectory).outcome = .error (.settings e) →
      ∃ f, (loadSettings fs path?).outcome = .error (.failed f) ∧ f.message = e.message ∧
        f.kind.exitCode = 78) ∧
    (∀ f, (loadSettings fs path?).outcome = .error (.faulted f) ↔
      ∃ fault, UnreportedFault fs path? fs.workingDirectory fault ∧
        stopOfLoadFault fault = .faulted f) ∧
    ∀ fault, UnreportedFault fs path? dir fault → ¬fault.Reported := by
  refine ⟨fun fault hfault => ?_, fun e he => ?_, fun f => ?_,
    fun _ => UnreportedFault.not_reported⟩
  · exact ⟨Settings.discover_eq_error_iff hfault, Settings.load_eq_error_iff hnul hfault⟩
  · exact ⟨⟨.settings, e.message⟩, loadSettings_eq_error_iff.mpr ⟨.settings e, he, rfl⟩, rfl, rfl⟩
  · rw [loadSettings_eq_error_iff]
    refine exists_congr fun fault => and_congr_left fun hstop => ?_
    exact Settings.load_eq_error_iff hnul (not_reported_of_faulted hstop)

/-- A directory with settings that are no document. -/
def brokenSettings : FileSystem :=
  .ofProbes ⟨.single, ["w"]⟩ [⟨⟨.relative, ["s.toml"]⟩, .ok (encode "x\n".toList)⟩]

theorem loading_faults_brokenSettings :
    (∀ fault : LoadFault, ¬fault.Reported →
      (Settings.discover brokenSettings ⟨.single, ["w"]⟩ = .error fault ↔
          SearchFault brokenSettings ⟨.single, ["w"]⟩ fault) ∧
        ((Settings.load brokenSettings (some ⟨.relative, ["s.toml"]⟩)
            ⟨.single, ["w"]⟩).outcome = .error fault ↔
          UnreportedFault brokenSettings (some ⟨.relative, ["s.toml"]⟩) ⟨.single, ["w"]⟩ fault)) ∧
    ∃ f, (loadSettings brokenSettings (some ⟨.relative, ["s.toml"]⟩)).outcome =
        .error (.failed f) ∧
      f.message = "Invalid TOML in s.toml" ∧ f.kind.exitCode = 78 := by
  have hall := loading_faults brokenSettings (some ⟨.relative, ["s.toml"]⟩) ⟨.single, ["w"]⟩
    (by simp; decide)
  refine ⟨hall.1, ?_⟩
  have hload : (Settings.load brokenSettings (some ⟨.relative, ["s.toml"]⟩)
      brokenSettings.workingDirectory).outcome =
        .error (.settings (.invalidToml ⟨.relative, ["s.toml"]⟩)) := by
    decide +kernel
  obtain ⟨f, hf, hmessage, hcode⟩ := hall.2.1 _ hload
  exact ⟨f, hf, hmessage.trans (by decide +kernel), hcode⟩

/-- Settings that are not UTF-8. -/
def notUtf8Settings : FileSystem :=
  .ofProbes ⟨.single, ["w"]⟩ [⟨⟨.single, ["w", "pragmascan.toml"]⟩, .ok [0xFF]⟩]

/-- The fault of settings that are not UTF-8 is not reported. -/
theorem loadSettings_notUtf8Settings :
    (Settings.load notUtf8Settings none notUtf8Settings.workingDirectory).outcome =
        .error (.malformed ⟨0, 1, 0xFF, .invalidStart⟩) ∧
      (loadSettings notUtf8Settings none).outcome =
        .error (.faulted (.malformed ⟨0, 1, 0xFF, .invalidStart⟩)) := by
  decide +kernel

end FixturePragmas.CommandLine
