import FixturePragmas.Declaration.Printer
import FixturePragmas.Proofs.Declaration.Soundness

/-!
# Printing declarations and reading them back

What the reader finds can be written down again: its codes are codes of the grammar, its messages
hold no double quote, its columns are numbers within the limit (`Declaration.Writable`). Declarations
of this kind print to texts of the grammar, so reading what was printed gives them back
(`ofComment_renderAll`).
-/

namespace FixturePragmas

open Text (Blank isAsciiDigit)
open Text.Numeral (limit digits ofInt asciiValue value)

/-! ### Digits of a number -/

namespace Text.Numeral

theorem isAsciiDigit_digitChar {v : Nat} (h : v < 10) : isAsciiDigit (Nat.digitChar v) = true := by
  have all : ∀ w : Fin 10, isAsciiDigit (Nat.digitChar w.val) = true := by decide
  exact all ⟨v, h⟩

theorem asciiValue_lt {c : Char} (h : isAsciiDigit c = true) : asciiValue c < 10 := by
  simp only [isAsciiDigit, decide_eq_true_eq, Char.le_def, UInt32.le_iff_toNat_le] at h
  have hle : c.toNat ≤ 57 := h.2
  have hzero : '0'.toNat = 48 := rfl
  unfold asciiValue
  omega

theorem isNumeral_digits (n : Nat) : Declaration.Grammar.IsNumeral (digits n) := by
  induction n using Nat.strongRecOn with
  | ind n ih =>
    rw [digits]
    split
    · next h =>
      refine ⟨List.cons_ne_nil _ _, fun c hc => ?_⟩
      rw [List.mem_singleton.mp hc]
      exact isAsciiDigit_digitChar h
    · next h =>
      refine ⟨by simp, fun c hc => ?_⟩
      rcases List.mem_append.mp hc with hc | hc
      · exact (ih (n / 10) (by omega)).2 c hc
      · rw [List.mem_singleton.mp hc]
        exact isAsciiDigit_digitChar (Nat.mod_lt n (by omega))

theorem length_digits_le {n k : Nat} (hk : 0 < k) (h : n < 10 ^ k) : (digits n).length ≤ k := by
  induction k generalizing n with
  | zero => exact absurd hk (Nat.lt_irrefl 0)
  | succ k ih =>
    rw [digits]
    split
    · exact Nat.succ_le_succ (Nat.zero_le k)
    · next hten =>
      have hquot : n / 10 < 10 ^ k := by
        rw [Nat.pow_succ] at h
        exact Nat.div_lt_of_lt_mul (by omega)
      have hpos : 0 < k := by
        rcases Nat.eq_zero_or_pos k with rfl | hpos
        · rw [Nat.pow_zero] at hquot
          omega
        · exact hpos
      have hle := ih hpos hquot
      rw [List.length_append, List.length_singleton]
      omega

/-- The digits of a number are the decimal digits of its value. -/
theorem ofDigits_digits (n : Nat) : Nat.ofDigits 10 ((digits n).reverse.map asciiValue) = n := by
  rw [List.map_reverse, ← value_eq_ofDigits, value_digits]

/-- A numeral within the limit has a value that prints within the limit. -/
theorem ofDigits_lt {ds : List Char} (hds : ∀ c ∈ ds, isAsciiDigit c = true)
    (h : ds.length ≤ limit) : Nat.ofDigits 10 (ds.reverse.map asciiValue) < 10 ^ limit := by
  have hlt : Nat.ofDigits 10 (ds.reverse.map asciiValue) <
      10 ^ (ds.reverse.map asciiValue).length := by
    refine Nat.ofDigits_lt_base_pow_length (by omega) fun v hv => ?_
    obtain ⟨c, hc, rfl⟩ := List.mem_map.mp hv
    exact asciiValue_lt (hds c (List.mem_reverse.mp hc))
  rw [List.length_map, List.length_reverse] at hlt
  exact Nat.lt_of_lt_of_le hlt (Nat.pow_le_pow_right (by omega) h)

end Text.Numeral

/-! ### What can be written -/

/-- An issue that can be written: no quote in its message, a column within the limit. -/
structure Issue.Writable (i : Issue) : Prop where
  message : '"' ∉ i.message.toList
  column : ∃ n : Nat, i.column = n ∧ n < 10 ^ limit

namespace Declaration

open Grammar

/-- A declaration that can be written: its code and its issues can. -/
structure Writable (d : Declaration) : Prop where
  code : IsCode d.code.toList
  issues : ∀ i ∈ d.issues, i.Writable

/-- The characters of a declaration that come from the text it was read in. -/
def chars (d : Declaration) : List Char :=
  d.code.toList ++ d.issues.flatMap fun i => i.message.toList

theorem Entry.writable_issue {e : Entry} {t : List Char} (he : EntryText t e)
    (hshort : ∀ ds ∈ e.numeral?, ds.length ≤ limit) : e.issue.Writable := by
  cases he with
  | column hds =>
    exact ⟨by simp [Entry.issue],
      _, rfl, Text.Numeral.ofDigits_lt hds.2 (hshort _ rfl)⟩
  | columnMessage hds hw htext =>
    exact ⟨by simpa [Entry.issue] using htext,
      _, rfl, Text.Numeral.ofDigits_lt hds.2 (hshort _ rfl)⟩
  | message htext =>
    exact ⟨by simpa [Entry.issue] using htext, 0, rfl, Nat.pow_pos (by omega)⟩

theorem Entry.chars_issue {e : Entry} {t : List Char} (he : EntryText t e) :
    e.issue.message.toList ⊆ t := by
  intro c hc
  cases he with
  | column hds => simp [Entry.issue] at hc
  | @columnMessage ds w text hds hw htext =>
    have hmem : c ∈ text := by simpa [Entry.issue] using hc
    simp [hmem]
  | @message text htext =>
    have hmem : c ∈ text := by simpa [Entry.issue] using hc
    simp [hmem]

/-- What is read from a comment can be written, and its characters are those of the comment. -/
theorem writable_of_mem_declared {cs : List Char}
    (hshort : ∀ n ∈ numerals cs, n.length ≤ limit) :
    ∀ d ∈ declared cs, d.Writable ∧ d.chars ⊆ cs := by
  intro d hd
  obtain ⟨w, hw, rfl⟩ := List.mem_map.mp hd
  have hfound := Written.foundIn_of_mem_all cs w hw
  have hnumerals : ∀ e ∈ w.entries, ∀ ds ∈ e.numeral?, ds.length ≤ limit := by
    intro e he ds hds
    refine hshort ds (List.mem_flatMap.mpr ⟨w, hw, ?_⟩)
    exact List.mem_filterMap.mpr ⟨e, he, hds⟩
  -- the code, the issues, and that no character is new
  refine ⟨⟨?_, fun i hi => ?_⟩, fun c hc => ?_⟩
  · show IsCode (String.ofList w.code).toList
    rw [String.toList_ofList]
    exact hfound.isCode
  · obtain ⟨e, he, rfl⟩ := List.mem_map.mp hi
    obtain ⟨t, ht, -⟩ := hfound.entries e he
    exact Entry.writable_issue ht (hnumerals e he)
  · rcases List.mem_append.mp hc with hc | hc
    · have hcode : c ∈ (String.ofList w.code).toList := hc
      rw [String.toList_ofList] at hcode
      exact hfound.code_subset hcode
    · obtain ⟨i, hi, hci⟩ := List.mem_flatMap.mp hc
      obtain ⟨e, he, rfl⟩ := List.mem_map.mp hi
      obtain ⟨t, ht, hsub⟩ := hfound.entries e he
      exact hsub (Entry.chars_issue ht hci)

end Declaration

/-! ### What is printed -/

namespace Issue

/-- The entry that an issue prints as. -/
def written (i : Issue) : Declaration.Entry :=
  if i.column = 0 then .message i.message.toList
  else if i.message = "" then .column (ofInt i.column) none
  else .column (ofInt i.column) (some i.message.toList)

theorem Writable.isNumeral {i : Issue} (h : i.Writable) :
    Declaration.Grammar.IsNumeral (ofInt i.column) ∧ (ofInt i.column).length ≤ limit ∧
      (Nat.ofDigits 10 ((ofInt i.column).reverse.map asciiValue) : Nat) = i.column := by
  obtain ⟨n, hn, hlt⟩ := h.column
  rw [hn]
  show Declaration.Grammar.IsNumeral (digits n) ∧ (digits n).length ≤ limit ∧
    ((Nat.ofDigits 10 ((digits n).reverse.map asciiValue) : Nat) : Int) = n
  rw [Text.Numeral.ofDigits_digits]
  exact ⟨Text.Numeral.isNumeral_digits n, Text.Numeral.length_digits_le (by decide) hlt, rfl⟩

theorem entryText_render {i : Issue} (h : i.Writable) :
    Declaration.Grammar.EntryText i.render i.written := by
  unfold render written
  split
  · exact .message h.message
  · split
    · exact .column h.isNumeral.1
    · have htext := Declaration.Grammar.EntryText.columnMessage h.isNumeral.1
        Text.blank_space h.message
      have hshape : ofInt i.column ++ ' ' :: i.quotation =
          ofInt i.column ++ [' '] ++ '"' :: i.message.toList ++ ['"'] := by simp [quotation]
      rw [hshape]
      exact htext

theorem issue_written {i : Issue} (h : i.Writable) : i.written.issue = i := by
  unfold written
  split
  · next hzero =>
    show (⟨String.ofList i.message.toList, 0⟩ : Issue) = i
    rw [String.ofList_toList, ← hzero]
  · split
    · next hempty =>
      show (⟨String.ofList [], _⟩ : Issue) = i
      rw [h.isNumeral.2.2, String.ofList_nil, ← hempty]
    · show (⟨String.ofList i.message.toList, _⟩ : Issue) = i
      rw [h.isNumeral.2.2, String.ofList_toList]

theorem length_numeral_written {i : Issue} (h : i.Writable) :
    ∀ ds ∈ i.written.numeral?, ds.length ≤ limit := by
  intro ds hds
  unfold written at hds
  split at hds
  · exact absurd hds (by simp [Declaration.Entry.numeral?])
  · split at hds
    · rw [← Option.some.inj hds]
      exact h.isNumeral.2.1
    · rw [← Option.some.inj hds]
      exact h.isNumeral.2.1

end Issue

namespace Declaration

open Grammar

/-- What a declaration prints as, with its digits unread. -/
def written (d : Declaration) : Written := ⟨d.code.toList, d.issues.map Issue.written⟩

/-- Issues print to a list of entries. -/
theorem entryList_joined {i : Issue} {is : List Issue} (h : ∀ j ∈ i :: is, j.Writable) :
    EntryList (' ' :: Text.joined [',', ' '] ((i :: is).map Issue.render))
      ((i :: is).map Issue.written) := by
  induction is generalizing i with
  | nil =>
    have hone := EntryList.last Text.blank_space
      (Issue.entryText_render (h i (by simp))) Text.blank_nil
    rw [List.append_nil] at hone
    exact hone
  | cons j is ih =>
    have hrest := ih (i := j) fun k hk => h k (List.mem_cons_of_mem i hk)
    have hmore := EntryList.more Text.blank_space
      (Issue.entryText_render (h i (by simp))) Text.blank_nil hrest
    have hshape : ' ' :: Text.joined [',', ' '] ((i :: j :: is).map Issue.render) =
        [' '] ++ i.render ++ [] ++ ',' :: ' ' :: Text.joined [',', ' ']
          ((j :: is).map Issue.render) := by
      simp [Text.joined]
    rw [hshape]
    exact hmore

theorem declarationText_render {d : Declaration} (h : d.Writable) :
    DeclarationText d.render d.written := by
  unfold render written
  cases hissues : d.issues with
  | nil =>
    have hbare := DeclarationText.bare Text.blank_nil h.code Text.blank_nil
    rw [List.nil_append, List.append_nil] at hbare
    exact hbare
  | cons i is =>
    have hlist := entryList_joined fun j (hj : j ∈ i :: is) => h.issues j (hissues ▸ hj)
    have hlisted := DeclarationText.listed Text.blank_nil h.code Text.blank_nil Text.blank_nil hlist
    simpa using hlisted

theorem pragmas_renderAll {d : Declaration} {ds : List Declaration}
    (h : ∀ e ∈ d :: ds, e.Writable) : Pragmas (renderAll (d :: ds)) ((d :: ds).map written) := by
  induction ds generalizing d with
  | nil => exact .last (declarationText_render (h d (by simp)))
  | cons e ds ih =>
    have hrest := ih (d := e) fun f hf => h f (List.mem_cons_of_mem d hf)
    have hmore := Pragmas.more (declarationText_render (h d (by simp)))
      Text.blank_nil Text.blank_space hrest
    have hshape : renderAll (d :: e :: ds) =
        d.render ++ [] ++ ';' :: ([' '] ++ renderAll (e :: ds)) := by
      simp [renderAll, Text.joined]
    rw [hshape]
    exact hmore

theorem declaration_written {d : Declaration} (h : d.Writable) : d.written.declaration = d := by
  have hissues : (d.issues.map Issue.written).map Entry.issue = d.issues := by
    rw [List.map_map]
    exact (List.map_congr_left fun i hi => Issue.issue_written (h.issues i hi)).trans
      (List.map_id d.issues)
  show (⟨String.ofList d.code.toList, (d.issues.map Issue.written).map Entry.issue⟩ : Declaration) =
    d
  rw [hissues, String.ofList_toList]

/-- Declarations that can be written are read back from what they print to, behind any prose in
which no bracket closes. -/
theorem ofComment_renderAll {prose : List Char} (hprose : ']' ∉ prose) {ds : List Declaration}
    (h : ∀ d ∈ ds, d.Writable) : ofComment (prose ++ renderAll ds) = .ok ds := by
  cases ds with
  | nil =>
    have hnone : Written.all prose = [] := Written.all_eq_nil (nextGroup?_eq_none hprose)
    show ofComment (prose ++ []) = .ok []
    rw [List.append_nil, ofComment_eq, numerals, declared, hnone]
    rfl
  | cons d ds =>
    have hlimit : ∀ w ∈ (d :: ds).map written, ∀ n ∈ w.numerals, n.length ≤ limit := by
      intro w hw n hn
      obtain ⟨e, he, rfl⟩ := List.mem_map.mp hw
      obtain ⟨entry, hentry, hnum⟩ := List.mem_filterMap.mp hn
      obtain ⟨i, hi, rfl⟩ := List.mem_map.mp hentry
      exact Issue.length_numeral_written ((h e he).issues i hi) n hnum
    have hall := all_pragmas hprose (pragmas_renderAll h) List.not_mem_nil ends_nil
    rw [List.append_nil] at hall
    rw [ofComment_eq_ok hall hlimit, List.map_map]
    exact congrArg Except.ok ((List.map_congr_left fun e he => declaration_written (h e he)).trans
      (List.map_id (d :: ds)))

end Declaration

/-! ### One line -/

theorem Text.not_mem_joined {c : Char} {sep : List Char} (hsep : c ∉ sep) {ts : List (List Char)}
    (hts : ∀ t ∈ ts, c ∉ t) : c ∉ Text.joined sep ts := by
  induction ts with
  | nil => exact List.not_mem_nil
  | cons t ts ih =>
    cases ts with
    | nil => exact hts t (by simp)
    | cons u ts =>
      have hrest := ih fun v hv => hts v (List.mem_cons_of_mem t hv)
      rw [Text.joined, List.mem_append, List.mem_append, not_or, not_or]
      · exact ⟨⟨hts t (by simp), hsep⟩, hrest⟩
      · exact List.cons_ne_nil u ts

theorem Issue.newline_not_mem_render {i : Issue} (h : i.Writable)
    (hmessage : '\n' ∉ i.message.toList) : '\n' ∉ i.render := by
  have hnumeral : '\n' ∉ ofInt i.column := by
    intro hmem
    exact absurd (h.isNumeral.1.2 _ hmem) (by decide)
  unfold render
  split
  · simp [quotation, hmessage]
  · split
    · exact hnumeral
    · simp [quotation, hmessage, hnumeral]

namespace Declaration

theorem newline_not_mem_render {d : Declaration} (h : d.Writable) (hline : '\n' ∉ d.chars) :
    '\n' ∉ d.render := by
  rw [chars, List.mem_append, not_or] at hline
  have hissues : ∀ t ∈ d.issues.map Issue.render, '\n' ∉ t := by
    intro t ht
    obtain ⟨i, hi, rfl⟩ := List.mem_map.mp ht
    refine Issue.newline_not_mem_render (h.issues i hi) fun hmem => ?_
    exact hline.2 (List.mem_flatMap.mpr ⟨i, hi, hmem⟩)
  have hlist : '\n' ∉ Text.joined [',', ' '] (d.issues.map Issue.render) :=
    Text.not_mem_joined (by decide) hissues
  unfold render
  dsimp only
  split
  · simp [hline.1]
  · simp [hline.1, hlist]

/-- Printing adds no line ends. -/
theorem newline_not_mem_renderAll {ds : List Declaration} (h : ∀ d ∈ ds, d.Writable)
    (hline : ∀ d ∈ ds, '\n' ∉ d.chars) : '\n' ∉ renderAll ds := by
  refine Text.not_mem_joined (by decide) fun t ht => ?_
  obtain ⟨d, hd, rfl⟩ := List.mem_map.mp ht
  exact newline_not_mem_render (h d hd) (hline d hd)

end Declaration

end FixturePragmas
