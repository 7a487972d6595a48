import FixturePragmas.Text.Blank

/-!
# Lines of a fixture

A line is classified by an ordered list of comment openers, without any knowledge of its language.
If the line, apart from its indentation, starts with an opener, the whole line is a comment;
otherwise the first opener that occurs anywhere in it opens a trailing comment; otherwise it is
plain code. Openers are tried in the order given, and empty ones are left out.
-/

namespace FixturePragmas

/-- The three kinds of line. -/
inductive LineKind where
  | code
  | codeWithComment
  | commentOnly
  deriving DecidableEq, Repr

/-- The name under which a kind of line is reported. -/
def LineKind.name : LineKind → String
  | .code => "code"
  | .codeWithComment => "code_with_comment"
  | .commentOnly => "comment_only"

/-- A line as the openers see it: with the opener that was found and the text behind it. -/
inductive Line where
  | code
  | codeWithComment (opener : String) (comment : List Char)
  | commentOnly (opener : String) (comment : List Char)
  deriving DecidableEq, Repr

namespace Line

def kind : Line → LineKind
  | .code => .code
  | .codeWithComment _ _ => .codeWithComment
  | .commentOnly _ _ => .commentOnly

/-- The text behind the opener; code has none. -/
def comment : Line → List Char
  | .code => []
  | .codeWithComment _ text => text
  | .commentOnly _ text => text

def opener? : Line → Option String
  | .code => none
  | .codeWithComment opener _ => some opener
  | .commentOnly opener _ => some opener

/-- What follows `opener` in a text that starts with it. -/
def afterStart? (opener cs : List Char) : Option (List Char) := opener.isPrefixOf? cs

/-- What follows the first occurrence of `opener` in a text. -/
def afterFirst? (opener : List Char) : List Char → Option (List Char)
  | [] => afterStart? opener []
  | c :: cs =>
    match afterStart? opener (c :: cs) with
    | some rest => some rest
    | none => afterFirst? opener cs

/-- The first opener for which `after?` finds a text, with that text. -/
def find? (after? : List Char → Option (List Char)) (openers : List String) :
    Option (String × List Char) :=
  openers.findSome? fun o => (after? o.toList).map (o, ·)

/-- The line `cs` under the openers `openers`. -/
def classify (openers : List String) (cs : List Char) : Line :=
  -- an empty opener would be found in front of every line
  let active := openers.filter (· ≠ "")
  match find? (afterStart? · (Text.trimStart cs)) active with
  | some (o, text) => .commentOnly o text
  | none =>
    -- the order of the openers decides, not which of them comes first in the line
    match find? (afterFirst? · cs) active with
    | some (o, text) => .codeWithComment o text
    | none => .code

/-! ### What the two searches find -/

theorem afterStart?_eq_some_iff {opener cs rest : List Char} :
    afterStart? opener cs = some rest ↔ cs = opener ++ rest := by
  induction opener generalizing cs with
  | nil =>
    show some cs = some rest ↔ cs = rest
    rw [Option.some.injEq]
  | cons a opener ih =>
    cases cs with
    | nil =>
      show none = some rest ↔ [] = a :: (opener ++ rest)
      simp
    | cons c cs =>
      show (if (a == c) = true then afterStart? opener cs else none) = some rest ↔
        c :: cs = a :: (opener ++ rest)
      by_cases h : a = c
      · subst h
        simp [ih]
      · have h' : ¬c = a := fun hc => h hc.symm
        simp [h, h']

theorem afterFirst?_sound {opener cs rest : List Char} (h : afterFirst? opener cs = some rest) :
    ∃ before, cs = before ++ opener ++ rest := by
  induction cs with
  | nil =>
    refine ⟨[], ?_⟩
    simpa using afterStart?_eq_some_iff.1 h
  | cons c cs ih =>
    unfold afterFirst? at h
    split at h
    · next rest' hs =>
      refine ⟨[], ?_⟩
      rw [Option.some.injEq] at h
      simpa [h] using afterStart?_eq_some_iff.1 hs
    · obtain ⟨before, hb⟩ := ih h
      exact ⟨c :: before, by simp [hb]⟩

end Line

end FixturePragmas
