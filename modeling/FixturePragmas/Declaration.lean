/-!
# Declarations

A declaration names the code of a finding that an analyser is expected to make, and the issues
expected under it. Where declarations are written, and how, is the matter of
`FixturePragmas.Declaration.Written`; here they are values.
-/

namespace FixturePragmas

/-- One expected finding: its message, empty when any will do, and its column, zero when any will.
-/
structure Issue where
  message : String
  column : Int
  deriving DecidableEq, Repr, Inhabited

/-- A code and the issues declared under it, in the order written. -/
structure Declaration where
  code : String
  issues : List Issue
  deriving DecidableEq, Repr, Inhabited

end FixturePragmas
