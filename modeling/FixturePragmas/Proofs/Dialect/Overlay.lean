import FixturePragmas.Proofs.Dialect

/-!
# New dialects behind old ones

A path that a dialect lists by name, or fits with an extension that is as long as any, does not
notice dialects that follow: names are looked for in the order of the dialects, and so are
extensions of one length (`Catalog.resolve?_eq_or_byLongest?`). So a dialect that follows is asked
only if it lists a name that none before it lists, or has an extension that is longer than all
before it. These are the ways in which a path is taken over (`Catalog.TakenOver`), and there are no
others (`Catalog.resolve?_ne_iff`).
-/

namespace FixturePragmas

/-- The first of the longest elements is the first that is as long as it. -/
theorem find?_of_argmax {α : Type} {m : α → Nat} {xs : List α} {x : α} (h : xs.argmax m = some x) :
    xs.find? (fun y => m y = m x) = some x := by
  induction xs with
  | nil => cases h
  | cons a xs ih =>
    rw [argmax_cons_eq_merge] at h
    -- along the elements: the first one wins against the rest, or the rest has a greater one
    cases hxs : xs.argmax m with
    | none =>
      rw [hxs] at h
      cases h
      exact List.find?_cons_of_pos (decide_eq_true rfl)
    | some y =>
      rw [hxs] at h
      have hx : greater m a y = x := Option.some.inj h
      unfold greater at hx
      split at hx
      · next hlt =>
        subst hx
        rw [List.find?_cons_of_neg (by simpa using Nat.ne_of_lt hlt)]
        exact ih hxs
      · subst hx
        exact List.find?_cons_of_pos (decide_eq_true rfl)

namespace Dialect

/-- Whether the dialect has an extension of `n` characters that fits `name`. -/
def Reaches (d : Dialect) (name : String) (n : Nat) : Prop :=
  ∃ e ∈ d.extensions, endsIn name e = true ∧ e.length = n

instance (d : Dialect) (name : String) (n : Nat) : Decidable (d.Reaches name n) :=
  List.decidableBEx _ _

end Dialect

namespace Catalog

/-! ### The longest extension that fits -/

/-- The lengths of the extensions of `ds` that fit `name`. -/
def fittingLengths (name : String) (ds : List Dialect) : List Nat :=
  ((ds.flatMap Dialect.extensions).filter (Dialect.endsIn name)).map String.length

/-- The length of the longest extension of `ds` that fits `name`, and 0 if none does. -/
def longestFit (name : String) (ds : List Dialect) : Nat := (fittingLengths name ds).max?.getD 0

section

variable {name : String} {ds : List Dialect} {d : Dialect} {e : String} {n : Nat}

theorem mem_fittingLengths_iff : n ∈ fittingLengths name ds ↔ ∃ d ∈ ds, d.Reaches name n := by
  simp only [fittingLengths, List.mem_map, List.mem_filter, List.mem_flatMap]
  constructor
  · rintro ⟨e, ⟨⟨d, hd, he⟩, hends⟩, hn⟩
    exact ⟨d, hd, e, he, hends, hn⟩
  · rintro ⟨d, hd, e, he, hends, hn⟩
    exact ⟨e, ⟨⟨d, hd, he⟩, hends⟩, hn⟩

theorem le_longestFit (hd : d ∈ ds) (hn : d.Reaches name n) : n ≤ longestFit name ds := by
  have hmem := mem_fittingLengths_iff.mpr ⟨d, hd, hn⟩
  unfold longestFit
  cases hmax : (fittingLengths name ds).max? with
  | none =>
    rw [List.max?_eq_none_iff.mp hmax] at hmem
    cases hmem
  | some k => exact (List.max?_eq_some_iff.mp hmax).2 n hmem

theorem exists_reaches_longestFit (h : longestFit name ds ≠ 0) :
    ∃ d ∈ ds, d.Reaches name (longestFit name ds) := by
  unfold longestFit at h ⊢
  cases hmax : (fittingLengths name ds).max? with
  | none =>
    rw [hmax] at h
    exact absurd rfl h
  | some k => exact mem_fittingLengths_iff.mp (List.max?_eq_some_iff.mp hmax).1

/-- The longest fit is a bound that is attained. -/
theorem longestFit_eq (hle : ∀ d ∈ ds, ∀ k, d.Reaches name k → k ≤ n)
    (hn : n ≠ 0 → ∃ d ∈ ds, d.Reaches name n) : longestFit name ds = n := by
  refine Nat.le_antisymm ?_ ?_
  · by_cases h : longestFit name ds = 0
    · rw [h]
      exact Nat.zero_le n
    · obtain ⟨d, hd, hreach⟩ := exists_reaches_longestFit h
      exact hle d hd _ hreach
  · by_cases h : n = 0
    · rw [h]
      exact Nat.zero_le _
    · obtain ⟨d, hd, hreach⟩ := hn h
      exact le_longestFit hd hreach

/-! ### Dialects with an extension of this length -/

/-- The first of the dialects with the longest extension that fits `name`. -/
def byLongest? (name : String) (ds : List Dialect) : Option Dialect :=
  if longestFit name ds = 0 then none else ds.find? (·.Reaches name (longestFit name ds))

theorem exists_mem_fittingExtensions (hd : d ∈ ds) (h : d.Reaches name n) (hn : n ≠ 0) :
    ∃ e, (d, e) ∈ fittingExtensions name ds ∧ e.length = n := by
  obtain ⟨e, he, hends, rfl⟩ := h
  refine ⟨e, mem_fittingExtensions_iff.mpr ⟨hd, he, ?_, hends⟩, rfl⟩
  rintro rfl
  exact hn rfl

theorem reaches_of_mem_fittingExtensions {p : Dialect × String}
    (hp : p ∈ fittingExtensions name ds) : p.1.Reaches name p.2.length := by
  obtain ⟨-, he, -, hends⟩ := mem_fittingExtensions_iff.mp hp
  exact ⟨p.2, he, hends, rfl⟩

theorem length_ne_zero_of_mem_fittingExtensions {p : Dialect × String}
    (hp : p ∈ fittingExtensions name ds) : p.2.length ≠ 0 := fun hzero =>
  (mem_fittingExtensions_iff.mp hp).2.2.1 (String.length_eq_zero_iff.mp hzero)

theorem find?_reaches_of_argmax {p : Dialect × String}
    (h : ((fittingExtensions name ds).argmax fun p => p.2.length) = some p) :
    ds.find? (·.Reaches name p.2.length) = some p.1 := by
  have hp := List.argmax_mem h
  have hpos : p.2.length ≠ 0 := length_ne_zero_of_mem_fittingExtensions hp
  have hfirst := find?_of_argmax h
  rw [fittingExtensions, List.find?_filter, List.find?_flatMap,
    List.findSome?_eq_some_iff] at hfirst
  -- the extensions are listed dialect by dialect, so the first extension is in the first dialect
  obtain ⟨before, d, after, hds, hfound, hbefore⟩ := hfirst
  obtain ⟨e, he, rfl⟩ := List.mem_map.mp (List.mem_of_find?_eq_some hfound)
  refine List.find?_eq_some_iff_append.mpr
    ⟨decide_eq_true (reaches_of_mem_fittingExtensions hp), before, after, hds, fun d' hd' => ?_⟩
  rw [Bool.not_eq_true', decide_eq_false_iff_not]
  intro hreach
  obtain ⟨e', he', hlength⟩ := exists_mem_fittingExtensions (List.mem_singleton_self d') hreach hpos
  obtain ⟨-, hmem, hne, hends⟩ := mem_fittingExtensions_iff.mp he'
  refine List.find?_eq_none.mp (hbefore d' hd') (d', e') (List.mem_map_of_mem hmem) ?_
  simp only [decide_eq_true_eq]
  exact ⟨⟨hne, List.isSuffixOf_iff_suffix.mp hends⟩, hlength⟩

theorem byLongest?_eq (name : String) (ds : List Dialect) :
    byLongest? name ds = ((fittingExtensions name ds).argmax fun p => p.2.length).map Prod.fst := by
  cases hmax : (fittingExtensions name ds).argmax fun p => p.2.length with
  | none =>
    have hlongest : longestFit name ds = 0 := by
      refine longestFit_eq (fun d hd k hk => ?_) fun h => absurd rfl h
      -- an extension that reaches further than zero would be among those that fit
      by_contra hpos
      have hk' : k ≠ 0 := fun hzero => hpos (hzero ▸ Nat.le_refl 0)
      obtain ⟨e, he, -⟩ := exists_mem_fittingExtensions hd hk hk'
      rw [List.argmax_eq_none.mp hmax] at he
      cases he
    exact if_pos hlongest
  | some p =>
    have hp := List.argmax_mem hmax
    have hlongest : longestFit name ds = p.2.length := by
      refine longestFit_eq (fun d hd k hk => ?_) fun _ => ?_
      · by_cases hzero : k = 0
        · rw [hzero]
          exact Nat.zero_le _
        · obtain ⟨e, he, rfl⟩ := exists_mem_fittingExtensions hd hk hzero
          exact List.le_of_mem_argmax (f := fun p : Dialect × String => p.2.length) he hmax
      · exact ⟨p.1, (mem_fittingExtensions_iff.mp hp).1, reaches_of_mem_fittingExtensions hp⟩
    rw [byLongest?, hlongest, if_neg (length_ne_zero_of_mem_fittingExtensions hp)]
    exact find?_reaches_of_argmax hmax

end

theorem resolve?_eq_or_byLongest? (c : Catalog) (path : Path) :
    c.resolve? path = (c.values.find? fun d => path.name ∈ d.fileNames).or
      (byLongest? path.name c.values) := by
  rw [resolve?_eq, byLongest?_eq]

/-! ### New dialects behind old ones -/

/-- The ways in which a path goes to the dialect `d` when the dialects `news` follow `olds`,
although it did not before. -/
inductive TakenOver (path : Path) (olds news : List Dialect) (d : Dialect) : Prop
  /-- No old dialect lists the name, and `d` is the first of the new ones that do. -/
  | byName (hold : ∀ d' ∈ olds, path.name ∉ d'.fileNames)
    (hfirst : (news.find? fun d' => path.name ∈ d'.fileNames) = some d)
  /-- No dialect lists the name, a new one has a longer extension that fits than all old ones, and
  `d` is the first of the new ones with the longest of all. -/
  | byExtension (hname : ∀ d' ∈ olds ++ news, path.name ∉ d'.fileNames)
    (hlonger : ∃ d' ∈ news, ∃ e ∈ d'.extensions, Dialect.endsIn path.name e = true ∧
      longestFit path.name olds < e.length)
    (hfirst : (news.find? (·.Reaches path.name (longestFit path.name (olds ++ news)))) = some d)

section

variable {path : Path} {olds news : List Dialect} {d : Dialect} {name : String}

theorem TakenOver.mem (h : TakenOver path olds news d) : d ∈ news := by
  cases h with
  | byName _ hfirst => exact List.mem_of_find?_eq_some hfirst
  | byExtension _ _ hfirst => exact List.mem_of_find?_eq_some hfirst

theorem find?_fileNames_eq_none_iff {ds : List Dialect} :
    (ds.find? fun d => name ∈ d.fileNames) = none ↔ ∀ d ∈ ds, name ∉ d.fileNames := by
  rw [List.find?_eq_none]
  exact forall₂_congr fun d _ => not_congr decide_eq_true_iff

theorem find?_reaches_eq_none {ds : List Dialect} {n : Nat} (h : longestFit name ds < n) :
    ds.find? (·.Reaches name n) = none := by
  refine List.find?_eq_none.mpr fun d hd hreach => ?_
  exact absurd (le_longestFit hd (of_decide_eq_true hreach)) (Nat.not_le_of_lt h)

/-- A longer extension decides between the new dialects. -/
theorem byLongest?_append_of_longer
    (h : ∃ d ∈ news, ∃ e ∈ d.extensions, Dialect.endsIn name e = true ∧
      longestFit name olds < e.length) :
    byLongest? name (olds ++ news) =
      news.find? (·.Reaches name (longestFit name (olds ++ news))) := by
  obtain ⟨d, hd, e, he, hends, hlt⟩ := h
  -- the longest of all is longer than the longest of the old ones, so none of these reaches it
  have hlt' : longestFit name olds < longestFit name (olds ++ news) :=
    Nat.lt_of_lt_of_le hlt (le_longestFit (List.mem_append_right olds hd) ⟨e, he, hends, rfl⟩)
  rw [byLongest?, if_neg (Nat.ne_zero_of_lt hlt'), List.find?_append, find?_reaches_eq_none hlt',
    Option.none_or]

theorem exists_byLongest? {ds : List Dialect} (h : longestFit name ds ≠ 0) :
    ∃ d, ds.find? (·.Reaches name (longestFit name ds)) = some d := by
  obtain ⟨d, hd, hreach⟩ := exists_reaches_longestFit h
  exact Option.isSome_iff_exists.mp (List.find?_isSome.mpr ⟨d, hd, decide_eq_true hreach⟩)

/-- Extensions that are not longer leave everything as it is. -/
theorem byLongest?_append_of_not_longer
    (h : ∀ d ∈ news, ∀ e ∈ d.extensions, Dialect.endsIn name e = true →
      e.length ≤ longestFit name olds) :
    byLongest? name (olds ++ news) = byLongest? name olds := by
  have hlongest : longestFit name (olds ++ news) = longestFit name olds := by
    refine longestFit_eq (fun d hd n hreach => ?_) fun hpos => ?_
    · rcases List.mem_append.mp hd with hd | hd
      · exact le_longestFit hd hreach
      · obtain ⟨e, he, hends, rfl⟩ := hreach
        exact h d hd e he hends
    · obtain ⟨d, hd, hreach⟩ := exists_reaches_longestFit hpos
      exact ⟨d, List.mem_append_left news hd, hreach⟩
  unfold byLongest?
  rw [hlongest]
  split
  · rfl
  · next hpos =>
    obtain ⟨d, hd⟩ := exists_byLongest? hpos
    rw [List.find?_append, hd]
    rfl

variable {c c' : Catalog} (hvalues : c'.values = c.values ++ news)
include hvalues

theorem resolve?_of_takenOver (h : TakenOver path c.values news d) :
    c'.resolve? path = some d := by
  rw [resolve?_eq_or_byLongest?, hvalues]
  cases h with
  | byName hold hfirst =>
    rw [List.find?_append, find?_fileNames_eq_none_iff.mpr hold, hfirst]
    rfl
  | byExtension hname hlonger hfirst =>
    rw [find?_fileNames_eq_none_iff.mpr hname, Option.none_or, byLongest?_append_of_longer hlonger,
      hfirst]

/-- A path that goes to no new dialect goes where it went before. -/
theorem resolve?_of_not_takenOver (h : ∀ d, ¬TakenOver path c.values news d) :
    c'.resolve? path = c.resolve? path := by
  rw [resolve?_eq_or_byLongest?, resolve?_eq_or_byLongest?, hvalues, List.find?_append]
  -- names decide before extensions, and old ones before new ones
  cases hold : c.values.find? fun d => path.name ∈ d.fileNames with
  | some d => rfl
  | none =>
    cases hnew : news.find? fun d => path.name ∈ d.fileNames with
    | some d => exact absurd (.byName (find?_fileNames_eq_none_iff.mp hold) hnew) (h d)
    | none =>
      have hname : ∀ d ∈ c.values ++ news, path.name ∉ d.fileNames := by
        rw [← find?_fileNames_eq_none_iff, List.find?_append, hold, hnew]
        rfl
      refine byLongest?_append_of_not_longer fun d hd e he hends => ?_
      -- a longer extension that fits would take the path over
      by_contra hle
      have hlonger : ∃ d ∈ news, ∃ e ∈ d.extensions, Dialect.endsIn path.name e = true ∧
          longestFit path.name c.values < e.length := ⟨d, hd, e, he, hends, not_le.mp hle⟩
      have hpos : longestFit path.name (c.values ++ news) ≠ 0 := by
        have hreach : e.length ≤ longestFit path.name (c.values ++ news) :=
          le_longestFit (List.mem_append_right c.values hd) ⟨e, he, hends, rfl⟩
        omega
      have hlongest := byLongest?_append_of_longer hlonger
      rw [byLongest?, if_neg hpos] at hlongest
      obtain ⟨d', hd'⟩ := exists_byLongest? hpos
      exact h d' (.byExtension hname hlonger (hlongest ▸ hd'))

/-- Whether a path goes elsewhere is decided by the new dialects that take it over. -/
theorem resolve?_ne_iff (hdisjoint : ∀ d ∈ news, d ∉ c.values) (path : Path) :
    c'.resolve? path ≠ c.resolve? path ↔ ∃ d, TakenOver path c.values news d := by
  constructor
  · intro hne
    by_contra hno
    exact hne (resolve?_of_not_takenOver hvalues (not_exists.mp hno))
  · rintro ⟨d, h⟩ heq
    rw [resolve?_of_takenOver hvalues h] at heq
    exact hdisjoint d h.mem (mem_of_resolve? heq.symm)

end

end Catalog

end FixturePragmas
