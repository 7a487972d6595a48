import FixturePragmas.Dialect.Catalog
import FixturePragmas.Proofs.Path
import Mathlib.Data.List.MinMax

/-!
# Which dialect a path has

Each dialect puts forward the longest of its extensions that fit a path, and the longest of these
decides. That is the same as to take, from all extensions of all dialects in one row, the first of
the longest that fit (`Catalog.resolve?_eq_first_longest`): the first of several greatest elements
may be taken in two rounds (`argmax_flatMap`), and what is left out because it is too small may
be left out before or after (`argmax_filter`). Of a path only the last name counts.
-/

namespace FixturePragmas

/-! ### Greatest elements in two rounds -/

section

variable {α β : Type}

theorem firstGreatest_eq_argmax (m : α → Nat) (xs : List α) : firstGreatest m xs = xs.argmax m := by
  induction xs with
  | nil => rfl
  | cons x xs ih =>
    rw [firstGreatest, ih, List.argmax_cons]
    cases xs.argmax m <;> rfl

/-- The greater of two elements, the first of them if they are alike. -/
def greater (m : α → Nat) (x y : α) : α := if m x < m y then y else x

variable {m : α → Nat}

theorem greater_mem {q : α → Prop} {x y : α} (hx : q x) (hy : q y) : q (greater m x y) := by
  unfold greater
  split
  · exact hy
  · exact hx

theorem merge_greater_assoc (m : α → Nat) (a b c : Option α) :
    (a.merge (greater m) b).merge (greater m) c = a.merge (greater m) (b.merge (greater m) c) := by
  cases a with
  | none => cases b <;> cases c <;> rfl
  | some x =>
    cases b with
    | none => cases c <;> rfl
    | some y =>
      cases c with
      | none => rfl
      | some z =>
        show some (greater m (greater m x y) z) = some (greater m x (greater m y z))
        unfold greater
        split_ifs <;> first | rfl | omega

theorem argmax_cons_eq_merge (m : α → Nat) (x : α) (xs : List α) :
    (x :: xs).argmax m = (some x).merge (greater m) (xs.argmax m) := by
  rw [List.argmax_cons]
  cases xs.argmax m with
  | none => rfl
  | some y =>
    show (if m x < m y then some y else some x) = some (greater m x y)
    rw [greater, apply_ite some]

theorem argmax_append (m : α → Nat) (xs ys : List α) :
    (xs ++ ys).argmax m = (xs.argmax m).merge (greater m) (ys.argmax m) := by
  induction xs with
  | nil =>
    rw [List.nil_append, List.argmax_nil]
    cases ys.argmax m <;> rfl
  | cons x xs ih =>
    rw [List.cons_append, argmax_cons_eq_merge, ih, argmax_cons_eq_merge, merge_greater_assoc]

theorem argmax_map (m : β → Nat) (f : α → β) (xs : List α) :
    (xs.map f).argmax m = (xs.argmax fun x => m (f x)).map f := by
  induction xs with
  | nil => rfl
  | cons x xs ih =>
    rw [List.map_cons, List.argmax_cons, ih, List.argmax_cons]
    cases xs.argmax fun x => m (f x) with
    | none => rfl
    | some y =>
      show (if m (f x) < m (f y) then some (f y) else some (f x)) =
        (if m (f x) < m (f y) then some y else some x).map f
      split <;> rfl

/-- The first greatest of all elements is the first greatest of the first greatest ones. -/
theorem argmax_flatMap (m : β → Nat) (f : α → List β) (xs : List α) :
    (xs.flatMap f).argmax m = (xs.filterMap fun x => (f x).argmax m).argmax m := by
  induction xs with
  | nil => rfl
  | cons x xs ih =>
    rw [List.flatMap_cons, argmax_append, ih, List.filterMap_cons]
    cases (f x).argmax m with
    | none =>
      show _ = (xs.filterMap fun x => (f x).argmax m).argmax m
      cases (xs.filterMap fun x => (f x).argmax m).argmax m <;> rfl
    | some y => exact (argmax_cons_eq_merge m y _).symm

/-- A test that greater elements pass as well may be made before or after. -/
theorem argmax_filter {q : α → Bool} (hq : ∀ x y, q x = true → m x ≤ m y → q y = true)
    (xs : List α) : (xs.filter q).argmax m = (xs.argmax m).filter q := by
  induction xs with
  | nil => rfl
  | cons x xs ih =>
    -- whether the first element and the greatest of the rest are kept; `hq` relates the two
    by_cases hx : q x = true
    · rw [List.filter_cons_of_pos hx, argmax_cons_eq_merge, ih, argmax_cons_eq_merge]
      cases xs.argmax m with
      | none => exact (if_pos hx).symm
      | some y =>
        by_cases hy : q y = true
        · have hboth : q (greater m x y) = true := greater_mem (q := (q · = true)) hx hy
          simp [Option.merge, Option.filter, hy, hboth]
        · have hlt : ¬ m x < m y := fun hlt => hy (hq x y hx (Nat.le_of_lt hlt))
          simp [Option.merge, Option.filter, hx, hy, greater, hlt]
    · rw [List.filter_cons_of_neg hx, ih, argmax_cons_eq_merge]
      cases xs.argmax m with
      | none => exact (if_neg hx).symm
      | some y =>
        by_cases hy : q y = true
        · have hlt : m x < m y := by
            by_contra hge
            exact hx (hq y x hy (Nat.le_of_not_lt hge))
          simp [Option.merge, Option.filter, greater, hlt]
        · have hboth : ¬ q (greater m x y) = true :=
            greater_mem (q := fun z => ¬ q z = true) hx hy
          simp [Option.merge, Option.filter, hy, hboth]

end

/-! ### Dialects of paths -/

namespace Catalog

/-- All extensions in which a file name ends, letter case apart, each with its dialect; empty ones
do not count. -/
def fittingExtensions (name : String) (ds : List Dialect) : List (Dialect × String) :=
  (ds.flatMap fun d => d.extensions.map fun e => (d, e)).filter fun p =>
    p.2 ≠ "" ∧ Text.lower p.2.toList <:+ Text.lower name.toList

theorem mem_fittingExtensions_iff {name : String} {ds : List Dialect} {d : Dialect} {e : String} :
    (d, e) ∈ fittingExtensions name ds ↔
    d ∈ ds ∧ e ∈ d.extensions ∧ e ≠ "" ∧ Dialect.endsIn name e = true := by
  simp only [fittingExtensions, List.mem_filter, List.mem_flatMap, List.mem_map,
    decide_eq_true_eq, Dialect.endsIn, List.isSuffixOf_iff_suffix]
  constructor
  · rintro ⟨⟨d', hd, e', he, heq⟩, hfits⟩
    cases heq
    exact ⟨hd, he, hfits⟩
  · rintro ⟨hd, he, hfits⟩
    exact ⟨⟨d, hd, e, he, rfl⟩, hfits⟩

/-- The extension that decides for a path is the first of the longest that fit it. -/
theorem firstGreatest_extensionsFor (path : Path) (ds : List Dialect) :
    firstGreatest (·.2.length) (extensionsFor path ds) =
      (fittingExtensions path.name ds).argmax fun p => p.2.length := by
  have hlongest : ∀ d : Dialect, (d.matchingExtension? path).map (fun e => (d, e)) =
      ((d.extensions.filter (Dialect.endsIn path.name)).map fun e => (d, e)).argmax
        fun p => p.2.length := fun d => by
    rw [Dialect.matchingExtension?, firstGreatest_eq_argmax, argmax_map]
  -- an extension that is at least as long as one that is not empty is not empty either
  have hne : ∀ p q : Dialect × String, decide (p.2 ≠ "") = true → p.2.length ≤ q.2.length →
      decide (q.2 ≠ "") = true := by
    intro p q hp hle
    have hpos : p.2.length ≠ 0 := fun h => of_decide_eq_true hp (String.length_eq_zero_iff.mp h)
    refine decide_eq_true fun hq => hpos ?_
    rw [hq, String.length_empty] at hle
    exact Nat.le_zero.mp hle
  rw [extensionsFor, firstGreatest_eq_argmax, funext hlongest, argmax_filter hne,
    ← argmax_flatMap, ← argmax_filter hne]
  congr 1
  rw [fittingExtensions, List.filter_flatMap, List.filter_flatMap]
  refine List.flatMap_congr fun d _ => ?_
  rw [List.filter_map, List.filter_map, List.filter_filter]
  refine congrArg _ (List.filter_congr fun e _ => ?_)
  rw [Bool.eq_iff_iff]
  simp [Dialect.endsIn]

theorem resolve?_eq (c : Catalog) (path : Path) :
    c.resolve? path = (c.values.find? fun d => path.name ∈ d.fileNames).or
      (((fittingExtensions path.name c.values).argmax fun p => p.2.length).map Prod.fst) := by
  have hname : (c.values.find? fun d => d.matchesName path) =
      c.values.find? fun d => path.name ∈ d.fileNames := rfl
  rw [resolve?, resolution?, hname, firstGreatest_extensionsFor]
  cases c.values.find? fun d => path.name ∈ d.fileNames with
  | some d => rfl
  | none => exact Option.map_map _ _ _

theorem mem_of_resolve? {c : Catalog} {path : Path} {d : Dialect} (h : c.resolve? path = some d) :
    d ∈ c.values := by
  rw [resolve?_eq, Option.or_eq_some_iff] at h
  rcases h with h | ⟨-, h⟩
  · exact List.mem_of_find?_eq_some h
  · obtain ⟨p, hp, rfl⟩ := Option.map_eq_some_iff.mp h
    exact (mem_fittingExtensions_iff.mp (List.argmax_mem hp)).1

/-- The dialect of a path is the first that lists its last name, or else the dialect of the first of
the longest extensions that fit this name; directories do not count. -/
theorem resolve?_eq_first_longest (c : Catalog) :
    (∀ path : Path, c.resolve? path =
      (c.values.find? fun d => path.name ∈ d.fileNames).or
        (((fittingExtensions path.name c.values).argmax fun p => p.2.length).map Prod.fst)) ∧
    ∀ dir name : String, '/' ∉ name.toList → name ≠ "" → name ≠ "." →
      c.resolve? (.ofString (dir ++ "/" ++ name)) = c.resolve? (.ofString name) := by
  refine ⟨c.resolve?_eq, fun dir name hslash hempty hdot => ?_⟩
  have hname : Path.isName name.toList = true := by
    refine decide_eq_true ⟨fun h => hempty (String.toList_eq_nil_iff.mp h), fun h => hdot ?_⟩
    exact String.toList_inj.mp h
  rw [resolve?_eq, resolve?_eq, Path.name_ofString_append hslash hname,
    Path.name_ofString hslash hname]

/-- The longer of two extensions that fit decides, whatever its letter case, and the extension of a
directory does not count. -/
theorem resolve?_eq_first_longest_declarations :
    '/' ∉ "x.D.TS".toList ∧ "x.D.TS" ≠ "" ∧ "x.D.TS" ≠ "." ∧
      builtIn.resolve? (.ofString ("Makefile.mk" ++ "/" ++ "x.D.TS")) =
        builtIn.resolve? (.ofString "x.D.TS") ∧
      (builtIn.resolve? (.ofString "x.D.TS")).map Dialect.name = some "typescript" := by
  have hslash : '/' ∉ "x.D.TS".toList := by decide
  have hempty : "x.D.TS" ≠ "" := by decide
  have hdot : "x.D.TS" ≠ "." := by decide
  refine ⟨hslash, hempty, hdot, ?_, by decide +kernel⟩
  exact (resolve?_eq_first_longest builtIn).2 "Makefile.mk" "x.D.TS" hslash hempty hdot

end Catalog

end FixturePragmas
