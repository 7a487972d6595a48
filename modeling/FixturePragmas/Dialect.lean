import FixturePragmas.Path
import FixturePragmas.Text.Case

/-!
# Comment dialects

A dialect says how comments are opened in a family of files, and which files these are: those with
certain names, and those whose names end in certain extensions. Names must agree exactly; extensions
are compared without regard to letter case. Only the last name of a path counts.
-/

namespace FixturePragmas

/-- How a family of files opens its comments, and how its files are recognised. -/
structure Dialect where
  name : String
  /-- The comment openers in the order in which they are tried. -/
  openers : List String
  /-- Endings of file names, with their dot. -/
  extensions : List String := []
  /-- Whole file names. -/
  fileNames : List String := []
  description : String := ""
  deriving DecidableEq, Repr, Inhabited

/-- The first of the elements of `xs` with the greatest measure. -/
def firstGreatest {α : Type} (measure : α → Nat) : List α → Option α
  | [] => none
  | x :: xs =>
    match firstGreatest measure xs with
    | none => some x
    -- a later element has to be greater to win, so that of equal ones the first is found
    | some y => if measure x < measure y then some y else some x

/-- What `firstGreatest` finds is an element, and none has a greater measure. -/
theorem firstGreatest_mem {α : Type} {measure : α → Nat} {xs : List α} {x : α}
    (h : firstGreatest measure xs = some x) : x ∈ xs ∧ ∀ y ∈ xs, measure y ≤ measure x := by
  induction xs generalizing x with
  | nil => simp [firstGreatest] at h
  | cons a xs ih =>
    unfold firstGreatest at h
    split at h
    · next hn =>
      have hnil : xs = [] := by
        cases xs with
        | nil => rfl
        | cons b bs =>
          unfold firstGreatest at hn
          split at hn
          · simp at hn
          · split at hn <;> simp at hn
      simp_all
    · next y hy =>
      obtain ⟨hmem, hmax⟩ := ih hy
      split at h
      · next hlt =>
        rw [Option.some.injEq] at h
        subst h
        refine ⟨List.mem_cons_of_mem _ hmem, ?_⟩
        simp only [List.mem_cons, forall_eq_or_imp]
        exact ⟨Nat.le_of_lt hlt, hmax⟩
      · next hge =>
        rw [Option.some.injEq] at h
        subst h
        refine ⟨List.mem_cons_self, ?_⟩
        simp only [List.mem_cons, forall_eq_or_imp]
        exact ⟨Nat.le_refl _, fun z hz => Nat.le_trans (hmax z hz) (Nat.le_of_not_lt hge)⟩

namespace Dialect

/-- Whether the dialect names the file at `path`. -/
def matchesName (d : Dialect) (path : Path) : Bool := decide (path.name ∈ d.fileNames)

/-- Whether `name` ends in `extension`, both in small letters. -/
def endsIn (name extension : String) : Bool :=
  (Text.lower extension.toList).isSuffixOf (Text.lower name.toList)

/-- The longest extension of the dialect in which `path` ends. -/
def matchingExtension? (d : Dialect) (path : Path) : Option String :=
  firstGreatest String.length (d.extensions.filter (endsIn path.name))

end Dialect

end FixturePragmas
