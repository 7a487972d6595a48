import FixturePragmas.Declaration.Printer
import FixturePragmas.Dict

/-!
# Pragmas

A pragma is all that is declared for one line: under each code the issues expected, and whether a
finding with this code has been seen. The codes stand in the order of their first declaration.
Declaring a code again replaces its issues and makes it unseen; a finding can be marked as seen only
under a declared code.
-/

namespace FixturePragmas

/-- What is expected under one code, and whether it was hit by a finding. -/
structure Expectation where
  issues : List Issue
  hit : Bool
  deriving DecidableEq, Repr, Inhabited

/-- The expectations of a line, by code. -/
structure Pragma where
  expectations : Dict String Expectation
  deriving DecidableEq, Inhabited

/-- The failure of marking a code that was never declared. -/
structure UnknownCode where
  code : String
  deriving DecidableEq, Repr

namespace Pragma

/-- The pragma that declares nothing. -/
def empty : Pragma := ⟨.empty⟩

/-- Declare `d`, replacing any earlier declaration of its code. -/
def declare (p : Pragma) (d : Declaration) : Pragma :=
  ⟨p.expectations.insert d.code ⟨d.issues, false⟩⟩

/-- The pragma of several declarations, made one after the other. -/
def ofDeclarations (ds : List Declaration) : Pragma := ds.foldl declare empty

/-- Record that a finding with `code` was seen. -/
def markHit (p : Pragma) (code : String) : Except UnknownCode Pragma :=
  match p.expectations.get? code with
  | none => .error ⟨code⟩
  | some e => .ok ⟨p.expectations.insert code { e with hit := true }⟩

/-- The declared codes. -/
def codes (p : Pragma) : List String := p.expectations.keys

/-- The declared codes under which no finding was seen. -/
def unhitCodes (p : Pragma) : List String :=
  (p.expectations.toList.filter fun e => !e.2.hit).map Prod.fst

/-- What is declared, code by code. -/
def declarations (p : Pragma) : List Declaration :=
  p.expectations.toList.map fun e => ⟨e.1, e.2.issues⟩

/-- The pragma in the form in which it is written in comments. -/
def render (p : Pragma) : List Char := Declaration.renderAll p.declarations

theorem codes_declare (p : Pragma) (d : Declaration) :
    (p.declare d).codes = if d.code ∈ p.codes then p.codes else p.codes ++ [d.code] :=
  p.expectations.keys_insert d.code _

/-- Marking fails exactly for codes that are not declared. -/
theorem markHit_eq_error_iff (p : Pragma) (code : String) :
    p.markHit code = .error ⟨code⟩ ↔ code ∉ p.codes := by
  unfold markHit codes
  rw [← Dict.get?_eq_none_iff]
  cases p.expectations.get? code <;> simp

end Pragma

end FixturePragmas
