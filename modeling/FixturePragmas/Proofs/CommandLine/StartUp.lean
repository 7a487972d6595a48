import FixturePragmas.CommandLine.Program
import FixturePragmas.Proofs.Journal
import FixturePragmas.Proofs.Log.SetUp

/-!
# The log setting at the start of the program

The program reads the setting for its log before it runs a command, and a setting that cannot be read
stops it there, whatever the command (`outcome_program_of_loggerOf_error`); any other setting has no
say in what the program does but log (`program_withSetting_congr`). A logger that is set up from the
environment alone starts at the same level as the program's, unless that is level zero, which the
one takes for no level.
-/

namespace FixturePragmas.CommandLine

open Log Text Text.Numeral

/-! ### The logger of the program -/

/-- Set up from the environment alone, a logger starts at the level this asks for, if it asks for one
other than zero. -/
theorem setup_none_of_ne {setting? : Option String} {level? : Option Level}
    (h : Level.ofEnvironment setting? = .ok level?) (hne : level? ≠ some 0) (g : Logger) :
    g.setup setting? none = .ok (.startingAt (level?.getD Level.critical)) := by
  rw [Logger.setup_eq]
  unfold Logger.startingLevel
  rw [h]
  cases level? with
  | none => rfl
  | some l =>
    have hl : l ≠ 0 := fun hl => hne (congrArg some hl)
    exact congrArg (fun l => Except.ok (Logger.startingAt l)) (if_neg hl)

theorem setup_none_of_zero {setting? : Option String}
    (h : Level.ofEnvironment setting? = .ok (some 0)) (g : Logger) :
    g.setup setting? none = .ok (.startingAt Level.critical) := by
  rw [Logger.setup_eq]
  unfold Logger.startingLevel
  rw [h]
  rfl

/-- The program's logger starts at the level that the setting asks for. -/
theorem loggerOf_of_ok {env : Environment} {level? : Option Level}
    (h : Level.ofEnvironment env.logSetting? = .ok level?) :
    loggerOf env = .ok (.startingAt (level?.getD Level.critical)) := by
  unfold loggerOf
  cases level? with
  | none =>
    have hunset := setup_none_of_ne h nofun .initial
    rw [h]
    exact hunset
  | some l =>
    rw [h]
    rfl

theorem loggerOf_of_error {env : Environment} {e : Numeral.Error}
    (h : Level.ofEnvironment env.logSetting? = .error e) : loggerOf env = .error e := by
  unfold loggerOf
  rw [h]
  rfl

/-! ### The start of the program -/

namespace Environment

/-- The environment with another setting for the log. -/
def withSetting (env : Environment) (setting? : Option String) : Environment :=
  { env with logSetting? := setting? }

/-- Whether the program starts with the arguments `args`: they are told apart without asking for
help, name a command there is or none, and settle the verbosity. -/
def Admits (env : Environment) (args : List String) : Prop :=
  ∃ a command? ctx, (readProgramArguments env args).outcome = .ok a ∧
    (chooseCommand env a.plain).outcome = .ok command? ∧ contextOf env a = .ok ctx

end Environment

/-- The program stops at its start if its logger cannot be set up. -/
theorem outcome_program_of_loggerOf_error {env : Environment} {e : Numeral.Error}
    (h : loggerOf env = .error e) {args : List String} (hargs : env.Admits args) :
    (program env args).outcome = .error (.faulted (.numeral e)) := by
  obtain ⟨a, command?, ctx, hread, hchoose, hctx⟩ := hargs
  have hsettle : (settle env args).outcome = .ok (command?, ctx) := by
    unfold settle
    rw [Journal.outcome_bind, hread]
    show (chooseCommand env a.plain >>= _).outcome = _
    rw [Journal.outcome_bind, hchoose]
    show (Journal.ofExcept ((contextOf env a).mapError Stop.failed) >>= _).outcome = _
    rw [hctx]
    rfl
  unfold program
  rw [Journal.outcome_bind, hsettle]
  show (Journal.ofExcept ((loggerOf env).mapError _) >>= _).outcome = _
  rw [h]
  rfl

/-- Of the setting the program needs to know only that its logger can be set up. -/
theorem program_withSetting_congr {env : Environment} {setting? setting?' : Option String}
    {g g' : Logger} (h : loggerOf (env.withSetting setting?) = .ok g)
    (h' : loggerOf (env.withSetting setting?') = .ok g') (args : List String) :
    program (env.withSetting setting?) args = program (env.withSetting setting?') args := by
  unfold program
  rw [h, h']
  rfl

/-- A setting cannot be read exactly where, without the white space around it, it is made of
characters that count as digits and is no decimal numeral, or one that is too long. Then the program
stops at its start. Any other setting asks for its number, for the level of the word that it is in
any letters, or for nothing, and the program does what it does without one. -/
theorem start_fails_iff (env : Environment) (text : String) :
    let word := trim text.toList
    ((∃ e, Level.ofEnvironment (some text) = .error e) ↔
        Level.IsDigits word ∧ ¬IsReadable word) ∧
      (IsReadable word →
        Level.ofEnvironment (some text) =
          .ok (some (value (word.filterMap decimalValue?) : Nat))) ∧
      (∀ name l, (name, l) ∈ Level.words →
        word.map Char.toUpper = name.toList ∨ upper word = name.toList →
          Level.ofEnvironment (some text) = .ok (some l)) ∧
      (¬Level.IsDigits word → (∀ w ∈ Level.words, upper word ≠ w.1.toList) →
        Level.ofEnvironment (some text) = .ok none) ∧
      (∀ e, Level.ofEnvironment (some text) = .error e → e = Level.fault text ∧
        ∀ args, env.Admits args →
          (program (env.withSetting (some text)) args).outcome =
            .error (.faulted (.numeral e))) ∧
      ∀ level?, Level.ofEnvironment (some text) = .ok level? → ∀ args,
        program (env.withSetting (some text)) args = program (env.withSetting none) args := by
  refine ⟨?_, Level.ofEnvironment_of_isReadable, fun name l hname hword => ?_,
    Level.ofEnvironment_of_not_word, fun e he => ⟨?_, fun args hargs => ?_⟩,
    fun level? hlevel args => ?_⟩
  · constructor
    · rintro ⟨e, he⟩
      obtain ⟨hdigits, hreadable, -⟩ := Level.ofEnvironment_eq_error_iff.mp he
      exact ⟨hdigits, hreadable⟩
    · rintro ⟨hdigits, hreadable⟩
      exact ⟨_, Level.ofEnvironment_of_not_isReadable hdigits hreadable⟩
  · rcases hword with hascii | hupper
    · exact Level.ofEnvironment_of_word hname (Level.upper_of_map_toUpper hname hascii)
    · exact Level.ofEnvironment_of_word hname hupper
  · exact (Level.ofEnvironment_eq_error_iff.mp he).2.2
  · have hfault : loggerOf (env.withSetting (some text)) = .error e := loggerOf_of_error he
    exact outcome_program_of_loggerOf_error hfault hargs
  · have hset : Level.ofEnvironment (env.withSetting (some text)).logSetting? = .ok level? :=
      hlevel
    have hunset : Level.ofEnvironment (env.withSetting none).logSetting? = .ok none := rfl
    exact program_withSetting_congr (loggerOf_of_ok hset) (loggerOf_of_ok hunset) args

/-- An environment without files and with a setting for the log. -/
def settingAlone (setting : String) : Environment where
  files := .ofProbes ⟨.single, ["w"]⟩ []
  logSetting? := some setting

/-- At a digit in a circle the program stops before it tells its version. -/
theorem start_fails_iff_circledOne :
    (settingAlone "①").Admits ["version"] ∧
      Level.ofEnvironment (some "①") = .error (.notANumeral "'①'") ∧
      (program (settingAlone "①") ["version"]).outcome =
        .error (.faulted (.numeral (.notANumeral "'①'"))) := by
  have hargs : (settingAlone "①").Admits ["version"] := ⟨_, _, _, rfl, rfl, rfl⟩
  have hread : Level.ofEnvironment (some "①") = .error (.notANumeral "'①'") := by decide +kernel
  obtain ⟨-, -, -, -, hfault, -⟩ := start_fails_iff (settingAlone "①") "①"
  exact ⟨hargs, hread, (hfault _ hread).2 _ hargs⟩

/-- A raised two counts as a digit and is no decimal one: not even the version is told. -/
theorem run_raisedTwo :
    Level.ofEnvironment (some "²") = .error (.notANumeral "'²'") ∧
      ((settingAlone "²").run ["version"]).output = [] ∧
      ((settingAlone "²").run ["version"]).ending =
        .faulted (.numeral (.notANumeral "'²'")) := by
  decide +kernel

/-! ### Two ways to the level of the environment -/

/-- For every setting that can be read, or none, a logger that is set up from the environment alone is
the program's, in its level and in the layout of its one handler, unless the setting asks for level
zero. Then the program's logger lets everything through and shows where it comes from, while the
other starts at the gravest level; the settings that do this are the word for level zero and zeros
alone. -/
theorem setup_eq_loggerOf_iff {env : Environment} {level? : Option Level}
    (h : Level.ofEnvironment env.logSetting? = .ok level?) (g : Logger) :
    (g.setup env.logSetting? none = loggerOf env ↔ level? ≠ some 0) ∧
      (level? ≠ some 0 → loggerOf env = .ok (.startingAt (level?.getD Level.critical))) ∧
      (level? = some 0 → g.setup env.logSetting? none = .ok ⟨Level.critical, [.short]⟩ ∧
        loggerOf env = .ok ⟨0, [.long]⟩) ∧
      (level? = some 0 ↔ ∃ text, env.logSetting? = some text ∧
        (upper (trim text.toList) = "NOTSET".toList ∨
          IsReadable (trim text.toList) ∧
            ∀ c ∈ trim text.toList, decimalValue? c = some 0)) := by
  have hprogram := loggerOf_of_ok h
  have hzero : level? = some 0 → g.setup env.logSetting? none = .ok ⟨Level.critical, [.short]⟩ ∧
      loggerOf env = .ok ⟨0, [.long]⟩ := by
    rintro rfl
    exact ⟨setup_none_of_zero h g, hprogram⟩
  refine ⟨⟨?_, fun hne => ?_⟩, fun _ => hprogram, hzero, ?_⟩
  -- at level zero the two loggers differ, whatever logger was set up before
  · intro hsame hlevel
    obtain ⟨hcritical, hnull⟩ := hzero hlevel
    rw [hcritical, hnull] at hsame
    exact absurd hsame (by decide)
  · rw [setup_none_of_ne h hne, hprogram]
  · rw [← Level.ofEnvironment_eq_zero_iff, h, Except.ok.injEq]

/-- Where a warning is asked for, both loggers let records through from there on. -/
theorem setup_eq_loggerOf_warning :
    Level.ofEnvironment (settingAlone " Warn\n").logSetting? = .ok (some Level.warning) ∧
      Logger.initial.setup (settingAlone " Warn\n").logSetting? none =
        loggerOf (settingAlone " Warn\n") := by
  have hlevel : Level.ofEnvironment (settingAlone " Warn\n").logSetting? =
      .ok (some Level.warning) := by decide +kernel
  exact ⟨hlevel, (setup_eq_loggerOf_iff hlevel .initial).1.mpr (by decide)⟩

/-- At the word for level zero the two loggers differ in level and layout. -/
theorem setup_ne_loggerOf_notSet :
    Level.ofEnvironment (some "NOTSET") = .ok (some 0) ∧
      Logger.initial.setup (some "NOTSET") none = .ok ⟨Level.critical, [.short]⟩ ∧
      loggerOf (settingAlone "NOTSET") = .ok ⟨0, [.long]⟩ := by
  decide +kernel

end FixturePragmas.CommandLine
