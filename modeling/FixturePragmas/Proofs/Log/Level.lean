import FixturePragmas.Log.Level
import FixturePragmas.Proofs.Text.Capitals
import Mathlib.Data.List.Basic
import Mathlib.Data.List.Induction

/-!
# Which level a setting asks for

A setting that is made of characters that count as digits is taken for a number, but more characters
count as digits than a numeral may have, and a numeral may not be of any length. So there are texts
that are taken for numbers and cannot be read as such; these, and no others, are the settings at
which reading a level fails (`ofEnvironment_eq_error_iff`). Every other setting gives its number, or
the level of the word that it is in capitals, or nothing.
-/

namespace FixturePragmas

/-! ### Numerals of any script -/

namespace Text.Numeral

/-- Whether a text is a decimal numeral that is not too long. -/
def IsReadable (cs : List Char) : Prop :=
  cs ≠ [] ∧ (∀ c ∈ cs, (decimalValue? c).isSome = true) ∧ cs.length ≤ limit

theorem length_leading_eq_iff {cs : List Char} :
    (leading cs).length = cs.length ↔ ∀ c ∈ cs, (decimalValue? c).isSome = true := by
  induction cs with
  | nil => simp [leading]
  | cons c cs ih =>
    rw [leading, List.forall_mem_cons]
    cases hc : decimalValue? c with
    | some v => simp [ih]
    | none => simp

theorem leading_of_decimal {cs : List Char} (h : ∀ c ∈ cs, (decimalValue? c).isSome = true) :
    leading cs = cs.filterMap decimalValue? := by
  induction cs with
  | nil => rfl
  | cons c cs ih =>
    rw [List.forall_mem_cons] at h
    obtain ⟨v, hv⟩ := Option.isSome_iff_exists.mp h.1
    rw [leading, hv, List.filterMap_cons_some hv]
    exact congrArg (v :: ·) (ih h.2)

/-- The fault of a text that is read as a numeral and is none, or is too long. -/
def fault (cs : List Char) (quoted : String) : Error :=
  if limit < (leading cs).length then .tooLong (leading cs).length else .notANumeral quoted

theorem read_of_isReadable {cs : List Char} (h : IsReadable cs) (quoted : String) :
    read cs quoted = .ok (value (cs.filterMap decimalValue?)) := by
  obtain ⟨hne, hdecimal, hshort⟩ := h
  have hlength := length_leading_eq_iff.mpr hdecimal
  have hlimit : ¬limit < (leading cs).length := by omega
  show (if limit < (leading cs).length then _ else _) = _
  rw [if_neg hlimit, if_pos ⟨hlength, hne⟩, leading_of_decimal hdecimal]

theorem read_of_not_isReadable {cs : List Char} (h : ¬IsReadable cs) (quoted : String) :
    read cs quoted = .error (fault cs quoted) := by
  show (if limit < (leading cs).length then _ else _) = _
  unfold fault
  split
  · rfl
  · next hlimit =>
    have hnot : ¬((leading cs).length = cs.length ∧ cs ≠ []) := by
      rintro ⟨hlength, hne⟩
      exact h ⟨hne, length_leading_eq_iff.mp hlength, by omega⟩
    rw [if_neg hnot]

theorem value_append_singleton (vs : List Nat) (v : Nat) :
    value (vs ++ [v]) = 10 * value vs + v :=
  List.foldl_concat ..

theorem value_eq_zero_iff {vs : List Nat} : value vs = 0 ↔ ∀ v ∈ vs, v = 0 := by
  induction vs using List.reverseRecOn with
  | nil => simp [value]
  | append_singleton vs v ih =>
    rw [value_append_singleton, List.forall_mem_append, List.forall_mem_singleton, ← ih]
    omega

/-- A numeral is zero if all its digits are. -/
theorem value_filterMap_eq_zero_iff {cs : List Char}
    (h : ∀ c ∈ cs, (decimalValue? c).isSome = true) :
    value (cs.filterMap decimalValue?) = 0 ↔ ∀ c ∈ cs, decimalValue? c = some 0 := by
  rw [value_eq_zero_iff]
  constructor
  · intro hzero c hc
    obtain ⟨v, hv⟩ := Option.isSome_iff_exists.mp (h c hc)
    rw [hv, hzero v (List.mem_filterMap.mpr ⟨c, hc, hv⟩)]
  · intro hzero v hv
    obtain ⟨c, hc, hcv⟩ := List.mem_filterMap.mp hv
    exact Option.some.inj (hcv.symm.trans (hzero c hc))

end Text.Numeral

/-! ### Levels -/

namespace Log.Level

open Text Text.Numeral

/-- Whether a text is taken for a number. -/
def IsDigits (cs : List Char) : Prop := cs ≠ [] ∧ ∀ c ∈ cs, isDigitLike c = true

theorem isDigits_of_isReadable {cs : List Char} (h : IsReadable cs) : IsDigits cs := by
  refine ⟨h.1, fun c hc => ?_⟩
  obtain ⟨v, hv⟩ := Option.isSome_iff_exists.mp (h.2.1 c hc)
  exact isDigitLike_of_decimalValue? hv

/-- In capitals a text is taken for a number if it was before. -/
theorem isDigits_upper_iff {cs : List Char} :
    (upper cs ≠ [] ∧ (upper cs).all isDigitLike = true) ↔ IsDigits cs := by
  rw [all_isDigitLike_upper, List.all_eq_true, Ne, upper_eq_nil_iff]
  rfl

theorem read_of_isDigits {cs : List Char} (h : IsDigits (trim cs)) :
    read cs =
      (Numeral.read (trim cs) (Integer.shown (trim cs))).map fun n => some (n : Int) := by
  have hword : upper (trim cs) = trim cs := upper_of_digits h.2
  have htaken := isDigits_upper_iff.mpr h
  rw [hword] at htaken
  unfold read
  rw [hword]
  exact if_pos htaken

theorem read_of_not_isDigits {cs : List Char} (h : ¬IsDigits (trim cs)) :
    read cs = .ok (words.lookup (String.ofList (upper (trim cs)))) := by
  have htaken := mt isDigits_upper_iff.mp h
  exact if_neg htaken

theorem ofEnvironment_eq_read (text : String) :
    ofEnvironment (some text) = read text.toList := by
  show (if text = "" then .ok none else read text.toList) = _
  split
  · next h =>
    rw [h]
    rfl
  · rfl

theorem ofEnvironment_of_isReadable {text : String} (h : IsReadable (trim text.toList)) :
    ofEnvironment (some text) =
      .ok (some (value ((trim text.toList).filterMap decimalValue?) : Nat)) := by
  rw [ofEnvironment_eq_read, read_of_isDigits (isDigits_of_isReadable h), read_of_isReadable h]
  rfl

/-- The fault of a setting, where it is taken for a number and is none. -/
def fault (text : String) : Numeral.Error :=
  Numeral.fault (trim text.toList) (Integer.shown (trim text.toList))

theorem ofEnvironment_of_not_isReadable {text : String} (h : IsDigits (trim text.toList))
    (hnot : ¬IsReadable (trim text.toList)) : ofEnvironment (some text) = .error (fault text) := by
  rw [ofEnvironment_eq_read, read_of_isDigits h, read_of_not_isReadable hnot]
  rfl

theorem ofEnvironment_of_not_isDigits {text : String} (h : ¬IsDigits (trim text.toList)) :
    ofEnvironment (some text) = .ok (words.lookup (String.ofList (upper (trim text.toList)))) := by
  rw [ofEnvironment_eq_read, read_of_not_isDigits h]

/-- Reading a setting fails exactly where it is taken for a number and is none. -/
theorem ofEnvironment_eq_error_iff {text : String} {e : Numeral.Error} :
    ofEnvironment (some text) = .error e ↔
      IsDigits (trim text.toList) ∧ ¬IsReadable (trim text.toList) ∧ e = fault text := by
  by_cases hdigits : IsDigits (trim text.toList)
  · by_cases hreadable : IsReadable (trim text.toList)
    · rw [ofEnvironment_of_isReadable hreadable]
      exact ⟨nofun, fun h => absurd hreadable h.2.1⟩
    · rw [ofEnvironment_of_not_isReadable hdigits hreadable, Except.error.injEq]
      exact ⟨fun h => ⟨hdigits, hreadable, h.symm⟩, fun h => h.2.2.symm⟩
  · rw [ofEnvironment_of_not_isDigits hdigits]
    exact ⟨nofun, fun h => absurd h.1 hdigits⟩

/-! ### Words -/

/-- A word for a level stays one in small letters or in both. -/
theorem upper_of_map_toUpper {name : String} {l : Level} (hname : (name, l) ∈ words)
    {cs : List Char} (h : cs.map Char.toUpper = name.toList) : upper cs = name.toList := by
  have hascii : ∀ w ∈ words, (w.1.toList.all fun c => decide (c.toNat < 128)) = true := by decide
  rw [← h]
  refine upper_of_ascii fun c hc => ?_
  have hmem : c.toUpper ∈ name.toList := h ▸ List.mem_map_of_mem hc
  have hcapital := List.all_eq_true.mp (hascii _ hname) c.toUpper hmem
  exact ascii_of_toUpper (of_decide_eq_true hcapital)

theorem lookup_words {name : String} {l : Level} (h : (name, l) ∈ words) :
    words.lookup name = some l := by
  have hall : ∀ w ∈ words, words.lookup w.1 = some w.2 := by decide
  exact hall _ h

theorem not_isDigits_of_upper_eq {name : String} {l : Level} (hname : (name, l) ∈ words)
    {cs : List Char} (h : upper cs = name.toList) : ¬IsDigits cs := by
  have hletters : ∀ w ∈ words, w.1.toList.all isDigitLike = false := by decide
  intro hdigits
  have hall := (isDigits_upper_iff.mpr hdigits).2
  rw [h, hletters _ hname] at hall
  cases hall

theorem ofEnvironment_of_word {text name : String} {l : Level} (hname : (name, l) ∈ words)
    (h : upper (trim text.toList) = name.toList) : ofEnvironment (some text) = .ok (some l) := by
  rw [ofEnvironment_of_not_isDigits (not_isDigits_of_upper_eq hname h), h, String.ofList_toList,
    lookup_words hname]

theorem ofEnvironment_of_not_word {text : String} (hdigits : ¬IsDigits (trim text.toList))
    (h : ∀ w ∈ words, upper (trim text.toList) ≠ w.1.toList) :
    ofEnvironment (some text) = .ok none := by
  rw [ofEnvironment_of_not_isDigits hdigits]
  refine congrArg Except.ok (List.lookup_eq_none_iff.mpr fun w hw => bne_iff_ne.mpr fun heq => ?_)
  exact h w hw (by rw [← heq, String.toList_ofList])

/-! ### Level zero -/

theorem lookup_words_eq_zero_iff {name : String} :
    words.lookup name = some 0 ↔ name = "NOTSET" := by
  constructor
  · intro h
    obtain ⟨before, after, hsplit, -⟩ := List.lookup_eq_some_iff.mp h
    have hmem : (name, 0) ∈ words := by
      rw [hsplit]
      exact List.mem_append_right before List.mem_cons_self
    have hzero : ∀ w ∈ words, w.2 = 0 → w.1 = "NOTSET" := by decide
    exact hzero _ hmem rfl
  · rintro rfl
    decide

/-- Level zero is asked for by its word and by numerals that are all zeros, of any script. -/
theorem ofEnvironment_eq_zero_iff {setting? : Option String} :
    ofEnvironment setting? = .ok (some 0) ↔ ∃ text, setting? = some text ∧
      (upper (trim text.toList) = "NOTSET".toList ∨
        IsReadable (trim text.toList) ∧ ∀ c ∈ trim text.toList, decimalValue? c = some 0) := by
  constructor
  · intro h
    cases setting? with
    | none => cases h
    | some text =>
      refine ⟨text, rfl, ?_⟩
      by_cases hdigits : IsDigits (trim text.toList)
      · right
        by_cases hreadable : IsReadable (trim text.toList)
        · rw [ofEnvironment_of_isReadable hreadable, Except.ok.injEq, Option.some.injEq] at h
          have hvalue : value ((trim text.toList).filterMap decimalValue?) = 0 := Int.ofNat.inj h
          exact ⟨hreadable, (value_filterMap_eq_zero_iff hreadable.2.1).mp hvalue⟩
        · rw [ofEnvironment_of_not_isReadable hdigits hreadable] at h
          cases h
      · left
        rw [ofEnvironment_of_not_isDigits hdigits, Except.ok.injEq, lookup_words_eq_zero_iff] at h
        rw [← h, String.toList_ofList]
  · rintro ⟨text, rfl, hword | ⟨hreadable, hzero⟩⟩
    · exact ofEnvironment_of_word (by decide) hword
    · rw [ofEnvironment_of_isReadable hreadable,
        (value_filterMap_eq_zero_iff hreadable.2.1).mpr hzero]
      rfl

end Log.Level

end FixturePragmas
