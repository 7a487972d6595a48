import FixturePragmas.Proofs.Limit

/-!
# The grammar of declarations

The texts that declarations are meant to be written in, as inductive predicates: one for each rule
of the grammar, with white space before and after every sign. The reader is permissive and takes
much more than these; here it is shown to take all of them, whatever prose stands around
(`Grammar.all_pragmas`). Each reading step has a lemma that says where it stops: a numeral at the
first character that is no digit, a list of entries at the first sign that fits no entry.
-/

namespace FixturePragmas.Declaration

open Text (Blank isBlank isAsciiDigit trim trimStart)

/-! ### The rules -/

namespace Grammar

/-- A numeral: a run of decimal digits, zeros in front allowed. -/
def IsNumeral (ds : List Char) : Prop := ds ≠ [] ∧ ∀ c ∈ ds, isAsciiDigit c = true

/-- A code: not empty, without brackets, and with no white space at its ends. -/
structure IsCode (code : List Char) : Prop where
  ne_nil : code ≠ []
  no_bracket : ∀ c ∈ code, c ≠ '[' ∧ c ≠ ']'
  head : ∀ c ∈ code.head?, isBlank c = false
  last : ∀ c ∈ code.getLast?, isBlank c = false

theorem isCode_singleton {c : Char} (hbracket : c ≠ '[' ∧ c ≠ ']') (hblank : isBlank c = false) :
    IsCode [c] where
  ne_nil := List.cons_ne_nil c []
  no_bracket := fun _ hd => List.mem_singleton.mp hd ▸ hbracket
  head := fun _ hd => Option.some.inj hd ▸ hblank
  last := fun _ hd => Option.some.inj hd ▸ hblank

/-- `entry := NUMBER | NUMBER STRING | STRING` -/
inductive EntryText : List Char → Entry → Prop
  | column {ds : List Char} (hds : IsNumeral ds) : EntryText ds (.column ds none)
  | columnMessage {ds w text : List Char} (hds : IsNumeral ds) (hw : Blank w)
      (htext : '"' ∉ text) : EntryText (ds ++ w ++ '"' :: text ++ ['"']) (.column ds (some text))
  | message {text : List Char} (htext : '"' ∉ text) :
      EntryText ('"' :: text ++ ['"']) (.message text)

/-- `entry_list := entry ("," entry)*` -/
inductive EntryList : List Char → List Entry → Prop
  | last {v cs w : List Char} {e : Entry} (hv : Blank v) (he : EntryText cs e) (hw : Blank w) :
      EntryList (v ++ cs ++ w) [e]
  | more {v cs w rest : List Char} {e : Entry} {es : List Entry} (hv : Blank v)
      (he : EntryText cs e) (hw : Blank w) (hes : EntryList rest es) :
      EntryList (v ++ cs ++ w ++ ',' :: rest) (e :: es)

/-- `declaration := "[" CODE "]" (":" entry_list)?` -/
inductive DeclarationText : List Char → Written → Prop
  | bare {v code w : List Char} (hv : Blank v) (hcode : IsCode code) (hw : Blank w) :
      DeclarationText ('[' :: (v ++ code ++ w) ++ [']']) ⟨code, []⟩
  | listed {v code w u list : List Char} {es : List Entry} (hv : Blank v) (hcode : IsCode code)
      (hw : Blank w) (hu : Blank u) (hlist : EntryList list es) :
      DeclarationText ('[' :: (v ++ code ++ w) ++ ']' :: (u ++ ':' :: list)) ⟨code, es⟩

/-- `pragmas := declaration (";" declaration)*` -/
inductive Pragmas : List Char → List Written → Prop
  | last {cs : List Char} {d : Written} (hd : DeclarationText cs d) : Pragmas cs [d]
  | more {cs v w rest : List Char} {d : Written} {ds : List Written} (hd : DeclarationText cs d)
      (hv : Blank v) (hw : Blank w) (hds : Pragmas rest ds) :
      Pragmas (cs ++ v ++ ';' :: (w ++ rest)) (d :: ds)

/-- Text that goes on with no entry list: the first character in it that is no white space, if there
is one, is no colon, comma, double quote or digit. -/
def Ends (rest : List Char) : Prop :=
  ∀ c ∈ (trimStart rest).head?, c ≠ ':' ∧ c ≠ ',' ∧ c ≠ '"' ∧ isAsciiDigit c = false

/-- Text that goes on with neither digits nor a message. -/
def EndsEntry (rest : List Char) : Prop :=
  ∀ c ∈ (trimStart rest).head?, c ≠ '"' ∧ isAsciiDigit c = false

theorem Ends.endsEntry {rest : List Char} (h : Ends rest) : EndsEntry rest :=
  fun c hc => (h c hc).2.2

theorem Ends.blank_append {w rest : List Char} (hw : Blank w) (h : Ends rest) :
    Ends (w ++ rest) := by
  unfold Ends
  rw [Text.trimStart_blank_append hw]
  exact h

theorem ends_nil : Ends [] := fun _ hc => absurd hc (Option.not_mem_none _)

theorem ends_semicolon {v : List Char} (hv : Blank v) (rest : List Char) :
    Ends (v ++ ';' :: rest) := by
  intro c hc
  rw [Text.eq_of_mem_head?_trimStart hv rfl hc]
  decide

theorem endsEntry_comma {v : List Char} (hv : Blank v) (rest : List Char) :
    EndsEntry (v ++ ',' :: rest) := by
  intro c hc
  rw [Text.eq_of_mem_head?_trimStart hv rfl hc]
  decide

end Grammar

open Grammar

/-! ### Signs, numerals and quotations -/

theorem not_blank_of_isAsciiDigit {c : Char} (h : isAsciiDigit c = true) : isBlank c = false := by
  have hrange : 48 ≤ c.toNat ∧ c.toNat ≤ 57 := by
    simp only [isAsciiDigit, decide_eq_true_eq, Char.le_def, UInt32.le_iff_toNat_le] at h
    exact h
  rw [← Bool.not_eq_true, isBlank, Text.inRanges_iff]
  rintro ⟨r, hr, hle⟩
  simp only [Text.blankRanges, List.mem_cons, List.not_mem_nil, or_false] at hr
  -- no range of white space meets the ten digits
  rcases hr with rfl | rfl | rfl | rfl | rfl | rfl | rfl | rfl | rfl | rfl <;>
    (dsimp only at hle; omega)

theorem sign?_of_blank {c : Char} {w : List Char} (hc : isBlank c = false) (hw : Blank w)
    (rest : List Char) : sign? c (w ++ c :: rest) = some rest := by
  unfold sign?
  rw [Text.trimStart_blank_append hw, Text.trimStart_cons_of_not_blank hc]
  simp

theorem sign?_eq_none {c : Char} {cs : List Char} (h : ∀ d ∈ (trimStart cs).head?, d ≠ c) :
    sign? c cs = none := by
  unfold sign?
  cases hcs : trimStart cs with
  | nil => rfl
  | cons d rest =>
    rw [hcs] at h
    simp [h d (by simp)]

/-- A numeral is read up to the first character that is no digit. -/
theorem numeral?_of_blank {w ds rest : List Char} (hw : Blank w) (hds : IsNumeral ds)
    (hrest : ∀ c ∈ rest.head?, isAsciiDigit c = false) :
    numeral? (w ++ (ds ++ rest)) = some (ds, rest) := by
  obtain ⟨hne, hall⟩ := hds
  -- trimming stops at the first digit, which is no white space
  have hbody : trimStart (w ++ (ds ++ rest)) = ds ++ rest := by
    rw [Text.trimStart_blank_append hw]
    refine Text.trimStart_eq_self fun c hc => ?_
    obtain ⟨d, tail, rfl⟩ := List.exists_cons_of_ne_nil hne
    rw [List.cons_append, List.head?_cons, Option.mem_some] at hc
    exact not_blank_of_isAsciiDigit (hc ▸ hall d (by simp))
  have hstop : rest.takeWhile isAsciiDigit = [] ∧ rest.dropWhile isAsciiDigit = rest := by
    cases rest with
    | nil => exact ⟨rfl, rfl⟩
    | cons c rest => simp [hrest c (by simp)]
  unfold numeral?
  rw [hbody]
  dsimp only
  rw [List.takeWhile_append_of_pos hall, List.dropWhile_append_of_pos hall, hstop.1, hstop.2,
    List.append_nil]
  obtain ⟨d, tail, rfl⟩ := List.exists_cons_of_ne_nil hne
  rfl

theorem numeral?_eq_none {cs : List Char} (h : ∀ c ∈ (trimStart cs).head?, isAsciiDigit c = false) :
    numeral? cs = none := by
  unfold numeral?
  dsimp only
  cases hcs : trimStart cs with
  | nil => rfl
  | cons c rest =>
    rw [hcs] at h
    simp [h c (by simp)]

theorem quotation?_of_blank {w text : List Char} (hw : Blank w) (htext : '"' ∉ text)
    (rest : List Char) : quotation? (w ++ '"' :: (text ++ '"' :: rest)) = some (text, rest) := by
  have hall : ∀ c ∈ text, decide (c ≠ '"') = true := by
    intro c hc
    refine decide_eq_true fun heq => ?_
    exact htext (heq ▸ hc)
  unfold quotation?
  rw [sign?_of_blank (by decide) hw]
  dsimp only
  rw [List.takeWhile_append_of_pos hall, List.dropWhile_append_of_pos hall]
  simp

theorem quotation?_eq_none {cs : List Char} (h : ∀ c ∈ (trimStart cs).head?, c ≠ '"') :
    quotation? cs = none := by
  unfold quotation?
  rw [sign?_eq_none h]

/-! ### Entries -/

/-- No digit follows a numeral where neither digits nor a message go on. -/
theorem Grammar.EndsEntry.head {rest : List Char} (h : EndsEntry rest) :
    ∀ c ∈ rest.head?, isAsciiDigit c = false := by
  intro c hc
  cases hblank : isBlank c with
  | true =>
    cases hd : isAsciiDigit c with
    | false => rfl
    | true =>
      rw [not_blank_of_isAsciiDigit hd] at hblank
      exact absurd hblank (by decide)
  | false =>
    -- what is no white space stays in front when the text is trimmed, so the hypothesis is about it
    have hself : trimStart rest = rest := by
      refine Text.trimStart_eq_self fun d hd => ?_
      rw [Option.mem_unique hd hc]
      exact hblank
    unfold EndsEntry at h
    rw [hself] at h
    exact (h c hc).2

/-- An entry that ends in a message is read in full, whatever follows. -/
theorem entry?_of_columnMessage {v ds w text : List Char} (hv : Blank v) (hds : IsNumeral ds)
    (hw : Blank w) (htext : '"' ∉ text) (rest : List Char) :
    entry? (v ++ (ds ++ w ++ '"' :: text ++ ['"'] ++ rest)) =
      some (.column ds (some text), rest) := by
  -- behind the column comes white space or the quote, so its digits end there
  have hdigits : ∀ c ∈ (w ++ '"' :: (text ++ '"' :: rest)).head?, isAsciiDigit c = false := by
    intro c hc
    cases w with
    | nil =>
      rw [List.nil_append, List.head?_cons, Option.mem_some] at hc
      subst hc
      decide
    | cons d w =>
      rw [List.cons_append, List.head?_cons, Option.mem_some] at hc
      subst hc
      cases hd : isAsciiDigit d with
      | false => rfl
      | true => exact absurd (hw d (by simp)) (by simp [not_blank_of_isAsciiDigit hd])
  have hnumeral : numeral? (v ++ (ds ++ w ++ '"' :: text ++ ['"'] ++ rest)) =
      some (ds, w ++ '"' :: (text ++ '"' :: rest)) := by
    rw [← numeral?_of_blank hv hds hdigits]
    simp
  unfold entry?
  rw [hnumeral]
  dsimp only
  rw [quotation?_of_blank hw htext]

theorem entry?_of_message {v text : List Char} (hv : Blank v) (htext : '"' ∉ text)
    (rest : List Char) :
    entry? (v ++ ('"' :: text ++ ['"'] ++ rest)) = some (.message text, rest) := by
  have hshape : v ++ ('"' :: text ++ ['"'] ++ rest) = v ++ '"' :: (text ++ '"' :: rest) := by simp
  -- a quote is no digit, so the entry is not taken for a column
  have hnumeral : numeral? (v ++ '"' :: (text ++ '"' :: rest)) = none := by
    refine numeral?_eq_none fun c hc => ?_
    rw [Text.eq_of_mem_head?_trimStart hv rfl hc]
    decide
  unfold entry?
  rw [hshape, hnumeral]
  dsimp only
  rw [quotation?_of_blank hv htext]
  rfl

/-- An entry is read in full where neither digits nor a message go on. -/
theorem entry?_of_text {v cs rest : List Char} {e : Entry} (hv : Blank v) (he : EntryText cs e)
    (hrest : EndsEntry rest) : entry? (v ++ (cs ++ rest)) = some (e, rest) := by
  cases he with
  | column hds =>
    have hmessage : quotation? rest = none := quotation?_eq_none fun c hc => (hrest c hc).1
    unfold entry?
    rw [numeral?_of_blank hv hds hrest.head]
    dsimp only
    rw [hmessage]
  | columnMessage hds hw htext => exact entry?_of_columnMessage hv hds hw htext rest
  | message htext => exact entry?_of_message hv htext rest

theorem entries_eq_nil {cs : List Char} (he : entry? cs = none) : entries cs = ([], cs) := by
  rw [entries]
  split
  · rfl
  · next e rest hsome =>
    rw [he] at hsome
    exact absurd hsome (by simp)

theorem entries_eq_singleton {cs rest : List Char} {e : Entry} (he : entry? cs = some (e, rest))
    (hcomma : sign? ',' rest = none) : entries cs = ([e], rest) := by
  rw [entries]
  split
  · next hnone =>
    rw [he] at hnone
    exact absurd hnone (by simp)
  · next e' rest' hsome =>
    rw [he] at hsome
    cases hsome
    split
    · rfl
    · next more hsign =>
      rw [hcomma] at hsign
      exact absurd hsign (by simp)

theorem entries_eq_cons {cs rest more : List Char} {e : Entry} (he : entry? cs = some (e, rest))
    (hcomma : sign? ',' rest = some more) :
    entries cs = (e :: (entries more).1, (entries more).2) := by
  rw [entries]
  split
  · next hnone =>
    rw [he] at hnone
    exact absurd hnone (by simp)
  · next e' rest' hsome =>
    rw [he] at hsome
    cases hsome
    split
    · next hnone =>
      rw [hcomma] at hnone
      exact absurd hnone (by simp)
    · next more' hsign =>
      rw [hcomma] at hsign
      cases hsign
      rfl

/-- A list of entries is read in full where no entry list goes on; only white space that ends it may
be left to what follows. -/
theorem entries_of_list {list rest : List Char} {es : List Entry} (hlist : EntryList list es)
    (hrest : Ends rest) : ∃ w, Blank w ∧ entries (list ++ rest) = (es, w ++ rest) := by
  induction hlist with
  | @last v cs w e hv he hw =>
    -- the list ends here: the white space behind the entry is left, and no comma goes on with it
    have hends : Ends (w ++ rest) := hrest.blank_append hw
    have hread := entry?_of_text hv he hends.endsEntry
    have hcomma : sign? ',' (w ++ rest) = none := sign?_eq_none fun c hc => (hends c hc).2.1
    refine ⟨w, hw, ?_⟩
    rw [List.append_assoc, List.append_assoc]
    exact entries_eq_singleton hread hcomma
  | @more v cs w more e es hv he hw hes ih =>
    -- the comma ends the entry, and the list goes on behind it
    obtain ⟨u, hu, hmore⟩ := ih
    have hread := entry?_of_text hv he (endsEntry_comma hw (more ++ rest))
    have hcomma : sign? ',' (w ++ ',' :: (more ++ rest)) = some (more ++ rest) :=
      sign?_of_blank (by decide) hw _
    have hshape : v ++ cs ++ w ++ ',' :: more ++ rest =
        v ++ (cs ++ (w ++ ',' :: (more ++ rest))) := by simp
    refine ⟨u, hu, ?_⟩
    rw [hshape, entries_eq_cons hread hcomma, hmore]

/-! ### Groups in prose -/

/-- In a text without closing brackets, a run of characters that may stand in a code ends before an
opening bracket, if it ends at all. -/
theorem dropWhile_inCode_head {cs : List Char} (h : ']' ∉ cs) :
    ∀ c ∈ (cs.dropWhile inCode).head?, c = '[' := by
  intro c hc
  have hstop := List.head?_dropWhile_not inCode cs
  rw [Option.mem_def] at hc
  rw [hc] at hstop
  have hmem : c ∈ cs := (List.dropWhile_suffix inCode).mem (List.mem_of_mem_head? hc)
  have hne : c ≠ ']' := fun heq => h (heq ▸ hmem)
  simpa [inCode, hne] using hstop

theorem group?_eq_none {cs rest : List Char} (h : ']' ∉ cs)
    (hrest : ∀ c ∈ rest.head?, c = '[') (hne : cs ≠ []) : group? (cs ++ rest) = none := by
  obtain ⟨c, cs, rfl⟩ := List.exists_cons_of_ne_nil hne
  have hcs : ']' ∉ cs := fun hmem => h (List.mem_cons_of_mem c hmem)
  -- the run of code characters ends before an opening bracket, in `cs` or at the start of `rest`
  have hhead : ∀ d ∈ ((cs ++ rest).dropWhile inCode).head?, d = '[' := by
    intro d hd
    rw [List.dropWhile_append] at hd
    split at hd
    · cases rest with
      | nil => simp at hd
      | cons b rest =>
        have hb : b = '[' := hrest b (by simp)
        subst hb
        rw [List.dropWhile_cons_of_neg (by decide)] at hd
        exact hrest d hd
    · next hrun =>
      have hlong : cs.dropWhile inCode ≠ [] := by simpa using hrun
      rw [List.head?_append, Option.or_of_isSome (by simpa using hlong)] at hd
      exact dropWhile_inCode_head hcs d hd
  rw [List.cons_append, group?]
  split
  · cases hd : (cs ++ rest).dropWhile inCode with
    | nil =>
      cases (cs ++ rest).takeWhile inCode <;> rfl
    | cons d tail =>
      have hopen : d = '[' := hhead d (by rw [hd]; simp)
      subst hopen
      cases (cs ++ rest).takeWhile inCode <;> simp
  · rfl

/-- A text without closing brackets holds no group. -/
theorem nextGroup?_eq_none {cs : List Char} (h : ']' ∉ cs) : nextGroup? cs = none := by
  induction cs with
  | nil => rfl
  | cons c cs ih =>
    have hgroup : group? (c :: cs ++ []) = none := group?_eq_none h (by simp) (by simp)
    rw [List.append_nil] at hgroup
    rw [nextGroup?, hgroup]
    exact ih fun hmem => h (List.mem_cons_of_mem c hmem)

/-- A group is read where it stands. -/
theorem group?_of_inside {x : List Char} (hx : x ≠ []) (hcode : ∀ c ∈ x, inCode c = true)
    (rest : List Char) : group? ('[' :: (x ++ ']' :: rest)) = some (x, rest) := by
  obtain ⟨a, x, rfl⟩ := List.exists_cons_of_ne_nil hx
  have htake : (a :: x ++ ']' :: rest).takeWhile inCode = a :: x := by
    rw [List.takeWhile_append_of_pos hcode, List.takeWhile_cons_of_neg (by decide),
      List.append_nil]
  have hdrop : (a :: x ++ ']' :: rest).dropWhile inCode = ']' :: rest := by
    rw [List.dropWhile_append_of_pos hcode, List.dropWhile_cons_of_neg (by decide)]
  rw [group?, if_pos rfl, htake, hdrop]
  rfl

/-- The first group behind prose without closing brackets; opening ones in the prose do not count.
-/
theorem nextGroup?_of_prose {prose x : List Char} (hprose : ']' ∉ prose) (hx : x ≠ [])
    (hcode : ∀ c ∈ x, inCode c = true) (rest : List Char) :
    nextGroup? (prose ++ '[' :: (x ++ ']' :: rest)) = some (x, rest) := by
  induction prose with
  | nil => rw [List.nil_append, nextGroup?, group?_of_inside hx hcode]
  | cons c prose ih =>
    have hgroup : group? (c :: prose ++ '[' :: (x ++ ']' :: rest)) = none :=
      group?_eq_none hprose (by simp) (by simp)
    rw [List.cons_append] at hgroup ⊢
    rw [nextGroup?, hgroup]
    exact ih fun hmem => hprose (List.mem_cons_of_mem c hmem)

/-! ### Whole comments -/

theorem Written.all_eq_nil {cs : List Char} (h : nextGroup? cs = none) : Written.all cs = [] := by
  rw [Written.all]
  split
  · rfl
  · next x rest hg => rw [h] at hg; exact absurd hg (by simp)

theorem Written.all_eq_of_blank {cs x rest : List Char} (h : nextGroup? cs = some (x, rest))
    (hx : trim x = []) : Written.all cs = Written.all rest := by
  rw [Written.all]
  split
  · next hnone => rw [h] at hnone; exact absurd hnone (by simp)
  · next x' rest' hg =>
    rw [h] at hg
    cases hg
    rw [if_pos hx]

theorem Written.all_eq_cons {cs x rest : List Char} (h : nextGroup? cs = some (x, rest))
    (hx : trim x ≠ []) :
    Written.all cs =
      ⟨trim x, (entriesAfterCode rest).1⟩ :: Written.all (entriesAfterCode rest).2 := by
  rw [Written.all]
  split
  · next hnone => rw [h] at hnone; exact absurd hnone (by simp)
  · next x' rest' hg =>
    rw [h] at hg
    cases hg
    rw [if_neg hx]

/-- The inside of a group is read as the code in it. -/
theorem Grammar.IsCode.group {v code w : List Char} (hcode : IsCode code) (hv : Blank v)
    (hw : Blank w) : (∀ c ∈ v ++ code ++ w, inCode c = true) ∧ trim (v ++ code ++ w) = code := by
  refine ⟨fun c hc => ?_, Text.trim_eq_of_ends hv hw hcode.ne_nil hcode.head hcode.last⟩
  have hblank : ∀ {u : List Char}, Blank u → c ∈ u → inCode c = true := by
    intro u hu hmem
    refine decide_eq_true ⟨?_, ?_⟩
    · rintro rfl
      exact hu.not_mem rfl hmem
    · rintro rfl
      exact hu.not_mem rfl hmem
  rcases List.mem_append.mp hc with hc | hc
  · rcases List.mem_append.mp hc with hc | hc
    · exact hblank hv hc
    · exact decide_eq_true (hcode.no_bracket c hc)
  · exact hblank hw hc

/-- A declaration behind prose is read in full; of its own text only white space at its end may be
left. -/
theorem Written.all_of_text {prose cs rest : List Char} {d : Written} (hprose : ']' ∉ prose)
    (hd : DeclarationText cs d) (hrest : Ends rest) :
    ∃ w, Blank w ∧ Written.all (prose ++ (cs ++ rest)) = d :: Written.all (w ++ rest) := by
  cases hd with
  -- no colon follows, so there is no list
  | @bare v code w hv hcode hw =>
    obtain ⟨hin, htrim⟩ := hcode.group hv hw
    have hgroup := nextGroup?_of_prose hprose (by simp [hcode.ne_nil]) hin rest
    have hlist : entriesAfterCode rest = ([], rest) := by
      unfold entriesAfterCode
      rw [sign?_eq_none fun c hc => (hrest c hc).1]
    have hshape : '[' :: (v ++ code ++ w) ++ [']'] ++ rest =
        '[' :: (v ++ code ++ w ++ ']' :: rest) := by simp
    refine ⟨[], Text.blank_nil, ?_⟩
    rw [hshape, Written.all_eq_cons hgroup (by rw [htrim]; exact hcode.ne_nil), htrim, hlist]
    rfl
  -- the colon opens the list, and what the list leaves of its own is white space
  | @listed v code w u list es hv hcode hw hu hes =>
    obtain ⟨hin, htrim⟩ := hcode.group hv hw
    obtain ⟨t, ht, hread⟩ := entries_of_list hes hrest
    have hgroup := nextGroup?_of_prose hprose (by simp [hcode.ne_nil]) hin
      (u ++ ':' :: (list ++ rest))
    have hlist : entriesAfterCode (u ++ ':' :: (list ++ rest)) = (es, t ++ rest) := by
      unfold entriesAfterCode
      rw [sign?_of_blank (by decide) hu]
      exact hread
    have hshape : '[' :: (v ++ code ++ w) ++ ']' :: (u ++ ':' :: list) ++ rest =
        '[' :: (v ++ code ++ w ++ ']' :: (u ++ ':' :: (list ++ rest))) := by simp
    refine ⟨t, ht, ?_⟩
    rw [hshape, Written.all_eq_cons hgroup (by rw [htrim]; exact hcode.ne_nil), htrim, hlist]

/-- The reader finds in a text of the grammar what is written there, between prose in which no
bracket closes and a rest that goes on with no entry list. -/
theorem Grammar.all_pragmas {prose text rest : List Char} {ds : List Written}
    (hprose : ']' ∉ prose) (htext : Pragmas text ds) (hrest : ']' ∉ rest) (hends : Ends rest) :
    Written.all (prose ++ (text ++ rest)) = ds := by
  induction htext generalizing prose with
  | last hd =>
    obtain ⟨w, hw, hall⟩ := Written.all_of_text hprose hd hends
    -- no bracket closes behind the last declaration, so there is no further group
    have hnone : ']' ∉ w ++ rest := by
      rw [List.mem_append, not_or]
      exact ⟨hw.not_mem rfl, hrest⟩
    rw [hall, Written.all_eq_nil (nextGroup?_eq_none hnone)]
  | @more cs v w text d ds hd hv hw _ ih =>
    obtain ⟨u, hu, hall⟩ :=
      Written.all_of_text hprose hd (ends_semicolon hv (w ++ (text ++ rest)))
    -- what stands between two declarations is prose for the second one
    have hbetween : ']' ∉ u ++ v ++ ';' :: w := by
      simp only [List.mem_append, List.mem_cons, not_or]
      exact ⟨⟨hu.not_mem rfl, hv.not_mem rfl⟩, by decide, hw.not_mem rfl⟩
    have hshape : cs ++ v ++ ';' :: (w ++ text) ++ rest =
        cs ++ (v ++ ';' :: (w ++ (text ++ rest))) := by simp
    have hnext := ih hbetween
    rw [List.append_assoc, List.append_assoc, List.cons_append] at hnext
    rw [hshape, hall, hnext]

/-- Every text of the grammar is read as it is meant: the declarations in their order, each column
the number its digits write, each message as it stands between its quotes. The white space in it
makes no difference, nor do prose before it and a rest behind it in which no bracket closes. -/
theorem ofComment_pragmas {prose text rest : List Char} {ds : List Written}
    (hprose : ']' ∉ prose) (htext : Pragmas text ds)
    (hlimit : ∀ d ∈ ds, ∀ n ∈ d.numerals, n.length ≤ Text.Numeral.limit) (hrest : ']' ∉ rest)
    (hends : Ends rest) :
    ofComment (prose ++ text ++ rest) = .ok (ds.map Written.declaration) := by
  have hall := all_pragmas hprose htext hrest hends
  rw [← List.append_assoc] at hall
  exact ofComment_eq_ok hall hlimit

/-- Prose with a stray bracket, white space of several kinds, zeros in front of a column, a message
of signs, an empty message and a code that comes twice. -/
theorem ofComment_pragmas_spaced :
    Pragmas "[ A\u00a0] : 007\t\"x],;\" ,\"\" ; [A]".toList
        [⟨['A'], [.column "007".toList (some "x],;".toList), .message []]⟩, ⟨['A'], []⟩] ∧
      ']' ∉ "see [ ".toList ∧ Ends " --> 10".toList ∧
      ofComment ("see [ ".toList ++ "[ A\u00a0] : 007\t\"x],;\" ,\"\" ; [A]".toList ++
        " --> 10".toList) = .ok [⟨"A", [⟨"x],;", 7⟩, ⟨"", 0⟩]⟩, ⟨"A", []⟩] := by
  have hcode : IsCode ['A'] := isCode_singleton ⟨by decide, by decide⟩ rfl
  have hdigits : IsNumeral "007".toList := ⟨List.cons_ne_nil _ _, List.all_eq_true.mp rfl⟩
  have hmessage : '"' ∉ "x],;".toList := by decide
  have hentry : EntryText "007\t\"x],;\"".toList (.column "007".toList (some "x],;".toList)) :=
    .columnMessage hdigits (Text.blank_singleton (c := '\t') rfl) hmessage
  have hempty : EntryText ['"', '"'] (.message []) := .message List.not_mem_nil
  have hlast : EntryList ['"', '"'] [.message []] := .last Text.blank_nil hempty Text.blank_nil
  have hlist : EntryList " 007\t\"x],;\" ,\"\"".toList
      [.column "007".toList (some "x],;".toList), .message []] :=
    .more Text.blank_space hentry Text.blank_space hlast
  have hdeclaration : DeclarationText "[ A\u00a0] : 007\t\"x],;\" ,\"\"".toList
      ⟨['A'], [.column "007".toList (some "x],;".toList), .message []]⟩ :=
    .listed Text.blank_space hcode (Text.blank_singleton (c := '\u00a0') rfl) Text.blank_space hlist
  have htext : Pragmas "[ A\u00a0] : 007\t\"x],;\" ,\"\" ; [A]".toList
      [⟨['A'], [.column "007".toList (some "x],;".toList), .message []]⟩, ⟨['A'], []⟩] :=
    .more hdeclaration Text.blank_space Text.blank_space
      (.last (.bare Text.blank_nil hcode Text.blank_nil))
  have hprose : ']' ∉ "see [ ".toList := by decide
  have hends : Ends " --> 10".toList := by
    intro c hc
    have hhead : some '-' = some c := hc
    rw [← Option.some.inj hhead]
    decide
  have hread := ofComment_pragmas hprose htext (by decide) (by decide) hends
  have hdeclared :
      [(⟨['A'], [.column "007".toList (some "x],;".toList), .message []]⟩ : Written),
        ⟨['A'], []⟩].map Written.declaration =
      [⟨"A", [⟨"x],;", 7⟩, ⟨"", 0⟩]⟩, ⟨"A", []⟩] := by decide +kernel
  rw [hdeclared] at hread
  exact ⟨htext, hprose, hends, hread⟩

end FixturePragmas.Declaration
