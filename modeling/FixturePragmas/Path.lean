/-!
# Paths

A path is a root, if it has one, and the names that lead from it. Reading a path drops empty names
and single dots and keeps double dots, so `a//b/./c` is `a/b/c` while `a/../b` stays as it is. Two
leading slashes are a root of their own; one, or three and more, are the plain root.

Names are texts. A file whose name is not UTF-8 has no path here.
-/

namespace FixturePragmas

/-- Where a path starts. -/
inductive Path.Root where
  /-- At the working directory. -/
  | relative
  /-- At `/`. -/
  | single
  /-- At `//`. -/
  | double
  deriving DecidableEq, Repr

/-- A root and the names that lead from it. -/
structure Path where
  root : Path.Root
  names : List String
  deriving DecidableEq, Repr

namespace Path

/-- The text a root stands for. -/
def Root.text : Root → String
  | .relative => ""
  | .single => "/"
  | .double => "//"

/-- The root of a path text. -/
def rootOf (cs : List Char) : Root :=
  match (cs.takeWhile (· = '/')).length with
  | 0 => .relative
  | 2 => .double
  | _ => .single

/-- Whether a piece between slashes names something. -/
def isName (piece : List Char) : Bool := decide (piece ≠ [] ∧ piece ≠ ['.'])

/-- The length in bytes from which on the text of a path is too long for a file system. -/
def lengthLimit : Nat := 4096

/-- Whether the text of a path is too long. -/
def isTooLong (s : String) : Bool := decide (lengthLimit ≤ s.utf8ByteSize)

/-- The path that a text stands for. -/
def ofString (s : String) : Path where
  root := rootOf s.toList
  names := ((s.toList.splitOn '/').filter isName).map String.ofList

/-- The text of a path; the empty relative path is a single dot. -/
def toString (p : Path) : String :=
  if p.root = .relative ∧ p.names = [] then "." else p.root.text ++ "/".intercalate p.names

instance : ToString Path := ⟨toString⟩

/-- The last name of a path; a bare root has none. -/
def name (p : Path) : String := p.names.getLast?.getD ""

/-- The path of `name` in the directory `p`. -/
def join (p : Path) (name : String) : Path := { p with names := p.names ++ [name] }

/-- Whether the text of a path holds the character NUL, which no file name can. -/
def hasNul (p : Path) : Bool := p.names.any fun n => n.toList.contains (Char.ofNat 0)

/-- The names that lead from `dir` to `p`, if `p` lies in it. -/
def namesFrom? (dir p : Path) : Option (List String) :=
  if p.root = dir.root then dir.names.isPrefixOf? p.names else none

@[simp] theorem name_join (p : Path) (n : String) : (p.join n).name = n := by
  simp [name, join]

/-- The name after the last slash of a text: empty when the text ends in a slash. -/
def baseName (s : String) : String := String.ofList ((s.toList.splitOn '/').getLast?.getD [])

end Path

end FixturePragmas
