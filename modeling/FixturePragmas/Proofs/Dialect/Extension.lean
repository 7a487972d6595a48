import FixturePragmas.Proofs.Dialect
import FixturePragmas.Proofs.Text.Case

/-!
# File names that end in an extension

A dialect recognises its files by the ends of their names, both in small letters. So it should
recognise any name that ends in one of its extensions as that is written, and it does, but for the
sigma at the start of a short extension: in `.Σ` alone it is no final one, behind a letter it is
(`Dialect.endsIn_append_iff`). All other extensions are found in the names that they end, or longer
ones instead, by their dialect and by a catalog that has it (`Catalog.resolution?_of_extension`).
-/

namespace FixturePragmas

/-- Where there is an element, there is a greatest one. -/
theorem exists_firstGreatest {α : Type} (measure : α → Nat) {xs : List α} {x : α} (h : x ∈ xs) :
    ∃ y, firstGreatest measure xs = some y ∧ y ∈ xs ∧ measure x ≤ measure y := by
  have hsome : firstGreatest measure xs ≠ none := by
    rw [firstGreatest_eq_argmax, ne_eq, List.argmax_eq_none]
    exact List.ne_nil_of_mem h
  obtain ⟨y, hy⟩ := Option.ne_none_iff_exists'.mp hsome
  obtain ⟨hmem, hmax⟩ := firstGreatest_mem hy
  exact ⟨y, hy, hmem, hmax x h⟩

namespace Dialect

/-- A name that ends in an extension is recognised by it unless a sigma changes its small form. -/
theorem endsIn_append_iff (stem e : String) :
    endsIn (stem ++ e) e = true ↔ ¬ Text.FinalOnlyBehind stem.toList e.toList := by
  rw [endsIn, List.isSuffixOf_iff_suffix, String.toList_append, Text.lower_suffix_iff]

/-- An extension that a name ends in is put forward, or one that is at least as long. -/
theorem exists_matchingExtension? {d : Dialect} {e : String} (he : e ∈ d.extensions) {path : Path}
    (hends : endsIn path.name e = true) :
    ∃ e', d.matchingExtension? path = some e' ∧ e.length ≤ e'.length := by
  obtain ⟨e', hfirst, -, hle⟩ :=
    exists_firstGreatest String.length (List.mem_filter.mpr ⟨he, hends⟩)
  exact ⟨e', hfirst, hle⟩

end Dialect

namespace Catalog

theorem mem_extensionsFor_iff {path : Path} {ds : List Dialect} {d : Dialect} {e : String} :
    (d, e) ∈ extensionsFor path ds ↔ d ∈ ds ∧ d.matchingExtension? path = some e ∧ e ≠ "" := by
  rw [extensionsFor, List.mem_filter, List.mem_filterMap]
  constructor
  · rintro ⟨⟨d', hd', hmap⟩, hne⟩
    obtain ⟨e', he', heq⟩ := Option.map_eq_some_iff.mp hmap
    cases heq
    exact ⟨hd', he', of_decide_eq_true hne⟩
  · rintro ⟨hd, he, hne⟩
    exact ⟨⟨d, hd, by rw [he]; rfl⟩, decide_eq_true hne⟩

/-- If a dialect of the catalog puts an extension forward, a dialect is found: by name, or by an
extension that is at least as long. -/
theorem exists_resolution? {c : Catalog} {d : Dialect} (hd : d ∈ c.values) {path : Path}
    {e : String} (he : d.matchingExtension? path = some e) (hne : e ≠ "") :
    ∃ r, c.resolution? path = some r ∧
      ∀ d', r = .byExtension d' →
        ∃ e', d'.matchingExtension? path = some e' ∧ e.length ≤ e'.length := by
  unfold resolution?
  cases c.values.find? (·.matchesName path) with
  | some d' => exact ⟨.byName d', rfl, nofun⟩
  | none =>
    obtain ⟨⟨d', e'⟩, hfirst, hmem, hle⟩ :=
      exists_firstGreatest (fun p : Dialect × String => p.2.length)
        (mem_extensionsFor_iff.mpr ⟨hd, he, hne⟩)
    refine ⟨.byExtension d', by rw [hfirst]; rfl, fun d'' hd'' => ?_⟩
    cases hd''
    exact ⟨e', (mem_extensionsFor_iff.mp hmem).2.1, hle⟩

/-- A declared extension matches the names that end in it as it is written, unless a sigma in it
becomes final behind the rest of the name. Otherwise its dialect puts forward an extension that is
at least as long, and the catalog finds a dialect; if it does so by extension, this dialect too has
one that matches and is at least as long. -/
theorem resolution?_of_extension (c : Catalog) {d : Dialect} (hd : d ∈ c.values)
    {stem e : String} (he : e ∈ d.extensions) (hne : e ≠ "") {path : Path}
    (hname : path.name = stem ++ e) :
    (Dialect.endsIn path.name e = true ↔ ¬ Text.FinalOnlyBehind stem.toList e.toList) ∧
      (¬ Text.FinalOnlyBehind stem.toList e.toList →
        (∃ e', d.matchingExtension? path = some e' ∧ e.length ≤ e'.length) ∧
          ∃ r, c.resolution? path = some r ∧ c.resolve? path = some r.dialect ∧
            ∀ d', r = .byExtension d' →
              ∃ e', d'.matchingExtension? path = some e' ∧ e.length ≤ e'.length) := by
  have hends : Dialect.endsIn path.name e = true ↔
      ¬ Text.FinalOnlyBehind stem.toList e.toList := by
    rw [hname]
    exact Dialect.endsIn_append_iff stem e
  refine ⟨hends, fun hsigma => ?_⟩
  obtain ⟨e₁, he₁, hle₁⟩ := Dialect.exists_matchingExtension? he (hends.mpr hsigma)
  -- the catalog leaves out the empty extension, which is never the longest here
  have hne₁ : e₁ ≠ "" := by
    rintro rfl
    have hzero := Nat.le_zero.mp hle₁
    exact hne (String.length_eq_zero_iff.mp hzero)
  obtain ⟨r, hr, hby⟩ := exists_resolution? hd he₁ hne₁
  refine ⟨⟨e₁, he₁, hle₁⟩, r, hr, by rw [resolve?, hr]; rfl, fun d' hd' => ?_⟩
  obtain ⟨e', he', hle'⟩ := hby d' hd'
  exact ⟨e', he', Nat.le_trans hle₁ hle'⟩

/-- A dialect with a sigma at the end of an extension and one in front of a letter. -/
def sigmaFiles : Dialect := { name := "sigma", openers := ["#"], extensions := [".Σ", ".ΣΑ"] }

/-- A dialect with the longer of two extensions that fit the same name. -/
def boxFiles : Dialect := { name := "box", openers := ["//"], extensions := ["x.σα"] }

/-- In front of a letter a sigma is never final; the longer extension of another dialect decides. -/
theorem resolution?_of_extension_sigmaFiles :
    sigmaFiles ∈ (ofDialects [sigmaFiles, boxFiles]).values ∧ ".ΣΑ" ∈ sigmaFiles.extensions ∧
      ".ΣΑ" ≠ "" ∧ (Path.ofString "a.Σ/box.ΣΑ").name = "box" ++ ".ΣΑ" ∧
      ¬ Text.FinalOnlyBehind "box".toList ".ΣΑ".toList ∧
      (∃ e', sigmaFiles.matchingExtension? (.ofString "a.Σ/box.ΣΑ") = some e' ∧
        ".ΣΑ".length ≤ e'.length) ∧
      ∃ r, (ofDialects [sigmaFiles, boxFiles]).resolution? (.ofString "a.Σ/box.ΣΑ") = some r ∧
        r.dialect = boxFiles ∧
        ∀ d', r = .byExtension d' →
          ∃ e', d'.matchingExtension? (.ofString "a.Σ/box.ΣΑ") = some e' ∧
            ".ΣΑ".length ≤ e'.length := by
  have hd : sigmaFiles ∈ (ofDialects [sigmaFiles, boxFiles]).values := by decide +kernel
  have he : ".ΣΑ" ∈ sigmaFiles.extensions := by decide
  have hne : ".ΣΑ" ≠ "" := by decide
  have hname : (Path.ofString "a.Σ/box.ΣΑ").name = "box" ++ ".ΣΑ" := by decide +kernel
  obtain ⟨hends, hfound⟩ := resolution?_of_extension _ hd he hne hname
  have hsigma := hends.mp (by decide +kernel)
  obtain ⟨hlongest, r, hr, hdialect, hby⟩ := hfound hsigma
  have hbox : (ofDialects [sigmaFiles, boxFiles]).resolve? (.ofString "a.Σ/box.ΣΑ") =
      some boxFiles := by decide +kernel
  rw [hbox] at hdialect
  exact ⟨hd, he, hne, hname, hsigma, hlongest, r, hr, (Option.some.inj hdialect).symm, hby⟩

/-- The name `a.Σ` ends in the extension `.Σ`, but no dialect is found for it. -/
theorem resolve?_finalSigma :
    sigmaFiles ∈ (ofDialects [sigmaFiles]).values ∧ ".Σ" ∈ sigmaFiles.extensions ∧ ".Σ" ≠ "" ∧
      (Path.ofString "a.Σ").name = "a" ++ ".Σ" ∧
      sigmaFiles.matchingExtension? (.ofString "a.Σ") = none ∧
      (ofDialects [sigmaFiles]).resolve? (.ofString "a.Σ") = none := by
  decide +kernel

end Catalog

end FixturePragmas
