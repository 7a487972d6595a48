import FixturePragmas.Fixture
import FixturePragmas.Proofs.Dialect.Extension
import FixturePragmas.Proofs.Dict
import FixturePragmas.Settings

/-!
# Extensions that no other dialect takes

A file whose name ends in an extension of a dialect may still go to another one: to a dialect that
lists the whole name, or to one with an extension that fits as well and is no shorter. If no dialect
of a catalog can do either, the extension is unshadowed, and all its files go to its dialect
(`Catalog.resolution?_of_unshadowed`). Two extensions that fit one name are ends of one text, so one
of them ends in the other, and the condition only compares the extensions with each other. The
built-in extensions are in ASCII and pass it in small letters (`Dialect.unshadowed_builtIn`), so
what stands before an extension, and which of its letters are capitals, makes no difference to them
(`Catalog.resolve?_builtIn_of_extension`).
-/

namespace FixturePragmas

namespace Dialect

theorem mem_of_matchingExtension? {d : Dialect} {path : Path} {e : String}
    (h : d.matchingExtension? path = some e) : e ∈ d.extensions ∧ endsIn path.name e = true :=
  List.mem_filter.mp (firstGreatest_mem h).1

/-- Whether the files that end in the extension `e` of `d` go to no other dialect of `ds`. -/
structure Unshadowed (ds : List Dialect) (d : Dialect) (e : String) : Prop where
  /-- None of these files is listed by its whole name. -/
  unlisted : ∀ d' ∈ ds, ∀ n ∈ d'.fileNames, endsIn n e = false
  /-- Of other dialects only shorter extensions fit any of these files. -/
  longest : ∀ d' ∈ ds, ∀ e' ∈ d'.extensions, endsIn e' e = true ∨ endsIn e e' = true →
    d' = d ∨ e'.length < e.length

/-- Of two extensions that fit one name, one ends in the other. -/
theorem endsIn_or_endsIn {name e e' : String} (he : endsIn name e = true)
    (he' : endsIn name e' = true) : endsIn e' e = true ∨ endsIn e e' = true := by
  rw [endsIn, List.isSuffixOf_iff_suffix] at he he' ⊢
  rw [endsIn, List.isSuffixOf_iff_suffix]
  exact List.suffix_or_suffix_of_suffix he he'

end Dialect

namespace Catalog

/-- All files that end in an unshadowed extension go to its dialect. -/
theorem resolution?_of_unshadowed {c : Catalog} {d : Dialect} (hd : d ∈ c.values) {e : String}
    (he : e ∈ d.extensions) (hne : e ≠ "") (h : Dialect.Unshadowed c.values d e) {path : Path}
    (hends : Dialect.endsIn path.name e = true) : c.resolution? path = some (.byExtension d) := by
  have hnone : c.values.find? (·.matchesName path) = none := by
    refine List.find?_eq_none.mpr fun d' hd' hlists => ?_
    -- a listed name would end in the extension
    have hfalse := h.unlisted d' hd' path.name (of_decide_eq_true hlists)
    rw [hends] at hfalse
    cases hfalse
  obtain ⟨e₁, he₁, hle₁⟩ := Dialect.exists_matchingExtension? he hends
  have hne₁ : e₁ ≠ "" := by
    rintro rfl
    exact hne (String.length_eq_zero_iff.mp (Nat.le_zero.mp hle₁))
  obtain ⟨⟨d', e'⟩, hfirst, hmem, hle'⟩ :=
    exists_firstGreatest (fun p : Dialect × String => p.2.length)
      (mem_extensionsFor_iff.mpr ⟨hd, he₁, hne₁⟩)
  obtain ⟨hd', hmatch, -⟩ := mem_extensionsFor_iff.mp hmem
  obtain ⟨he', hends'⟩ := Dialect.mem_of_matchingExtension? hmatch
  -- both extensions end the same name, so one of them ends in the other
  have hsame : d' = d := by
    rcases h.longest d' hd' e' he' (Dialect.endsIn_or_endsIn hends hends') with hsame | hlt
    · exact hsame
    · exact absurd (Nat.le_trans hle₁ hle') (Nat.not_le_of_lt hlt)
  rw [resolution?, hnone, hfirst, hsame]
  rfl

end Catalog

/-! ### The built-in dialects -/

namespace Dialect

/-- Whether a text consists of ASCII without slashes, capitals apart. -/
def IsPlain (s : String) : Prop := ∀ c ∈ s.toList.map Char.toLower, c.toNat < 128 ∧ c ≠ '/'

instance (s : String) : Decidable (IsPlain s) := List.decidableBAll _ _

theorem IsPlain.lower_eq {s : String} (h : IsPlain s) (before : List Char) :
    Text.lowerAfter before s.toList = s.toList.map Char.toLower :=
  Text.lowerAfter_of_ascii before fun _ hc =>
    Text.ascii_of_toLower (h _ (List.mem_map_of_mem hc)).1

theorem IsPlain.slash_not_mem {s : String} (h : IsPlain s) : '/' ∉ s.toList := fun hslash =>
  (h _ (List.mem_map_of_mem hslash)).2 rfl

/-- Plain texts are compared letter by letter. -/
theorem IsPlain.endsIn_eq {name e : String} (hname : IsPlain name) (he : IsPlain e) :
    endsIn name e =
      (e.toList.map Char.toLower).isSuffixOf (name.toList.map Char.toLower) := by
  rw [endsIn, Text.lower, Text.lower, hname.lower_eq, he.lower_eq]

/-- A name that ends in a plain extension is recognised by it, whichever letters are capitals. -/
theorem IsPlain.endsIn_append {e e' : String} (he : IsPlain e)
    (hcase : e'.toList.map Char.toLower = e.toList.map Char.toLower) (stem : String) :
    endsIn (stem ++ e') e = true := by
  have he' : IsPlain e' := by
    rw [IsPlain, hcase]
    exact he
  obtain ⟨small, hsmall⟩ := Text.exists_lowerAfter_append [] stem.toList e'.toList
  rw [endsIn, List.isSuffixOf_iff_suffix, String.toList_append, Text.lower, Text.lower, hsmall,
    he.lower_eq, he'.lower_eq, hcase]
  exact List.suffix_append small _

theorem plain_builtIn : ∀ d ∈ builtIn,
    (∀ e ∈ d.extensions, IsPlain e ∧ 2 ≤ e.length ∧ '.' ∈ e.toList.map Char.toLower) ∧
      ∀ n ∈ d.fileNames, IsPlain n ∧ '.' ∉ n.toList.map Char.toLower := by
  decide +kernel

/-- No two built-in dialects have extensions that fit one name, and the file names that they list
have no dot. -/
theorem unshadowed_builtIn {d : Dialect} (hd : d ∈ builtIn) {e : String} (he : e ∈ d.extensions) :
    Unshadowed builtIn d e := by
  have hends : ∀ d ∈ builtIn, ∀ e ∈ d.extensions, ∀ d' ∈ builtIn, ∀ e' ∈ d'.extensions,
      (e.toList.map Char.toLower).isSuffixOf (e'.toList.map Char.toLower) = true → d' = d := by
    decide +kernel
  obtain ⟨hplain, -, hdot⟩ := (plain_builtIn d hd).1 e he
  refine ⟨fun d' hd' n hn => ?_, fun d' hd' e' he' hfit => .inl ?_⟩
  · obtain ⟨hname, hnodot⟩ := (plain_builtIn d' hd').2 n hn
    rw [hname.endsIn_eq hplain, Bool.eq_false_iff, ne_eq, List.isSuffixOf_iff_suffix]
    exact fun hsuffix => hnodot (hsuffix.subset hdot)
  · have hplain' := ((plain_builtIn d' hd').1 e' he').1
    rw [hplain'.endsIn_eq hplain, hplain.endsIn_eq hplain'] at hfit
    rcases hfit with hfit | hfit
    · exact hends d hd e he d' hd' e' he' hfit
    · exact (hends d' hd' e' he' d hd e he hfit).symm

end Dialect

namespace Catalog

theorem values_builtIn : builtIn.values = Dialect.builtIn := by decide +kernel

/-- A path that ends in an extension of a built-in dialect, with any letters of it as capitals and
whatever stands before it, goes to this dialect among the built-in ones. Without settings its
openers are the ones for the path. -/
theorem resolve?_builtIn_of_extension {d : Dialect} (hd : d ∈ Dialect.builtIn) {e : String}
    (he : e ∈ d.extensions) {e' : String}
    (hcase : e'.toList.map Char.toLower = e.toList.map Char.toLower) (s : String) :
    builtIn.resolve? (.ofString (s ++ e')) = some d ∧
      Settings.default.catalogInUse.openersFor? (.ofString (s ++ e')) = some d.openers ∧
      (Fixture.openersIn Settings.default.catalogInUse (.ofString (s ++ e'))).outcome =
        .ok d.openers := by
  obtain ⟨hplain, hlength, -⟩ := (Dialect.plain_builtIn d hd).1 e he
  have hslash : '/' ∉ e'.toList := by
    refine Dialect.IsPlain.slash_not_mem ?_
    rw [Dialect.IsPlain, hcase]
    exact hplain
  have hlength' : e'.length = e.length := by
    rw [← String.length_toList, ← List.length_map Char.toLower, hcase, List.length_map,
      String.length_toList]
  -- without a slash in the extension, and with a character behind its dot, it ends a name
  obtain ⟨stem, hname⟩ := Path.exists_name_ofString_append hslash (hlength' ▸ hlength) s
  have hne : e ≠ "" := by
    rintro rfl
    exact absurd hlength (by decide)
  have hends : Dialect.endsIn (Path.ofString (s ++ e')).name e = true := by
    rw [hname]
    exact hplain.endsIn_append hcase stem
  have hresolution : builtIn.resolution? (.ofString (s ++ e')) = some (.byExtension d) := by
    refine resolution?_of_unshadowed ?_ he hne ?_ hends
    · rwa [values_builtIn]
    · rw [values_builtIn]
      exact Dialect.unshadowed_builtIn hd he
  have hresolve : builtIn.resolve? (.ofString (s ++ e')) = some d := by
    rw [resolve?, hresolution]
    rfl
  have hdefault : Settings.default.catalogInUse = builtIn := Dict.update_empty builtIn
  refine ⟨hresolve, ?_, ?_⟩
  · rw [hdefault, openersFor?, hresolve]
    rfl
  · rw [hdefault, Fixture.openersIn, hresolution]
    rfl

/-- Neither a directory called like a file of another dialect nor letters whose small forms hang on
their neighbours stand in the way of the extension of declarations. -/
theorem resolve?_builtIn_of_extension_capitals :
    ∃ d ∈ Dialect.builtIn, d.name = "typescript" ∧ ".d.ts" ∈ d.extensions ∧
      ".D.Ts".toList.map Char.toLower = ".d.ts".toList.map Char.toLower ∧
      builtIn.resolve? (.ofString ("Makefile/x.pyΑΣ" ++ ".D.Ts")) = some d ∧
      Settings.default.catalogInUse.openersFor? (.ofString ("Makefile/x.pyΑΣ" ++ ".D.Ts")) =
        some d.openers ∧
      (Fixture.openersIn Settings.default.catalogInUse
        (.ofString ("Makefile/x.pyΑΣ" ++ ".D.Ts"))).outcome = .ok d.openers := by
  obtain ⟨d, hd, hname, he⟩ :
      ∃ d ∈ Dialect.builtIn, d.name = "typescript" ∧ ".d.ts" ∈ d.extensions := by decide +kernel
  have hcase : ".D.Ts".toList.map Char.toLower = ".d.ts".toList.map Char.toLower := by decide
  exact ⟨d, hd, hname, he, hcase, resolve?_builtIn_of_extension hd he hcase "Makefile/x.pyΑΣ"⟩

end Catalog

end FixturePragmas
