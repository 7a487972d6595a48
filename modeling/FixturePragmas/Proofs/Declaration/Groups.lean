import FixturePragmas.Proofs.Declaration.Soundness

/-!
# Which groups of a comment are declared

A comment may hold any number of groups `[x]`, among prose, in messages, or overlapping what looks
like a message. The reader of declarations jumps: it looks for the next group, reads the entries
behind it, and goes on where these end. So that nothing is missed or made up in this way, the
reading is repeated here with the places at which it finds things (`Placed.all`), which does not
change what is read (`Placed.map_written_all`). Whatever a step of it takes holds no opening bracket
but those in its messages (`ReadTo`). Hence the groups that are declared are exactly those that do
not open in a message that was read, blank ones apart (`ofComment_eq_groups`).
-/

namespace FixturePragmas.Declaration

open Text (Blank trim)
open Grammar

/-! ### Stretches between two signs -/

/-- A stretch of a text between two signs: the place of the left one, and what stands between. -/
structure Enclosed where
  place : Nat
  inside : List Char
  deriving DecidableEq, Repr

namespace Enclosed

/-- The stretch stands between the signs `l` and `r` in the text `cs`, whose own place is `i`. -/
def StandsFrom (i : Nat) (l r : Char) (cs : List Char) (s : Enclosed) : Prop :=
  ∃ before after, cs = before ++ l :: (s.inside ++ r :: after) ∧ s.place = i + before.length

/-- The place lies behind the left sign and before the right one. -/
def Covers (s : Enclosed) (i : Nat) : Prop := s.place < i ∧ i ≤ s.place + s.inside.length

instance (s : Enclosed) (i : Nat) : Decidable (s.Covers i) := inferInstanceAs (Decidable (_ ∧ _))

variable {i : Nat} {l r : Char} {cs : List Char} {s : Enclosed}

theorem StandsFrom.append_left {before : List Char}
    (h : s.StandsFrom (i + before.length) l r cs) : s.StandsFrom i l r (before ++ cs) := by
  obtain ⟨before', after, rfl, hplace⟩ := h
  refine ⟨before ++ before', after, by rw [List.append_assoc], ?_⟩
  rw [hplace, List.length_append, Nat.add_assoc]

theorem StandsFrom.append_right (h : s.StandsFrom i l r cs) (rest : List Char) :
    s.StandsFrom i l r (cs ++ rest) := by
  obtain ⟨before, after, rfl, hplace⟩ := h
  exact ⟨before, after ++ rest, by simp, hplace⟩

/-- A stretch lies within its text, its two signs included. -/
theorem StandsFrom.bounds (h : s.StandsFrom i l r cs) :
    i ≤ s.place ∧ s.place + s.inside.length + 2 ≤ i + cs.length := by
  obtain ⟨before, after, rfl, hplace⟩ := h
  simp only [List.length_append, List.length_cons]
  omega

theorem standsFrom_cons_iff {c : Char} :
    s.StandsFrom i l r (c :: cs) ↔
      (s.place = i ∧ ∃ after, c :: cs = l :: (s.inside ++ r :: after)) ∨
        s.StandsFrom (i + 1) l r cs := by
  constructor
  · rintro ⟨before, after, hcs, hplace⟩
    cases before with
    | nil => exact .inl ⟨hplace, after, hcs⟩
    | cons b before =>
      rw [List.cons_append, List.cons.injEq] at hcs
      refine .inr ⟨before, after, hcs.2, ?_⟩
      rw [hplace, List.length_cons]
      omega
  · rintro (⟨hplace, after, hcs⟩ | h)
    · exact ⟨[], after, hcs, hplace⟩
    · have hstands : s.StandsFrom i l r ([c] ++ cs) := StandsFrom.append_left h
      exact hstands

end Enclosed

/-! ### The groups of a text -/

/-- A stretch that is an innermost group of a text: it stands between brackets, is not empty, and
holds no bracket. -/
def IsGroup (cs : List Char) (g : Enclosed) : Prop :=
  g.StandsFrom 0 '[' ']' cs ∧ g.inside ≠ [] ∧ ∀ c ∈ g.inside, c ≠ '[' ∧ c ≠ ']'

/-- The innermost groups of a text whose place is `i`, from left to right. -/
def groupsFrom (i : Nat) : List Char → List Enclosed
  | [] => []
  | c :: cs => ((group? (c :: cs)).map fun g => ⟨i, g.1⟩).toList ++ groupsFrom (i + 1) cs

/-- The innermost groups of a text, from left to right. -/
def groups (cs : List Char) : List Enclosed := groupsFrom 0 cs

theorem group?_of_ne {c : Char} (hc : c ≠ '[') (cs : List Char) : group? (c :: cs) = none := by
  rw [group?, if_neg hc]

theorem mem_groupsFrom_iff {i : Nat} {cs : List Char} {g : Enclosed} :
    g ∈ groupsFrom i cs ↔
      g.StandsFrom i '[' ']' cs ∧ g.inside ≠ [] ∧ ∀ c ∈ g.inside, inCode c = true := by
  induction cs generalizing i with
  | nil =>
    refine ⟨nofun, fun h => ?_⟩
    obtain ⟨before, after, hnil, -⟩ := h.1
    simp at hnil
  | cons c cs ih =>
    -- a group opens at this place, or it is one of the rest: both sides split in the same way
    rw [groupsFrom, List.mem_append, ih, Enclosed.standsFrom_cons_iff, Option.mem_toList,
      Option.map_eq_some_iff]
    constructor
    · rintro (⟨⟨x, rest⟩, hgroup, rfl⟩ | ⟨hstands, hinside⟩)
      · obtain ⟨hne, hcode, hcs⟩ := group?_sound hgroup
        exact ⟨.inl ⟨rfl, rest, hcs⟩, hne, hcode⟩
      · exact ⟨.inr hstands, hinside⟩
    · rintro ⟨⟨hplace, after, hcs⟩ | hstands, hne, hcode⟩
      · refine .inl ⟨(g.inside, after), ?_, ?_⟩
        · rw [hcs]
          exact group?_of_inside hne hcode after
        · rw [← hplace]
      · exact .inr ⟨hstands, hne, hcode⟩

theorem mem_groups_iff {cs : List Char} {g : Enclosed} : g ∈ groups cs ↔ IsGroup cs g := by
  rw [groups, mem_groupsFrom_iff, IsGroup]
  simp [inCode]

theorem pairwise_groupsFrom (i : Nat) (cs : List Char) :
    (groupsFrom i cs).Pairwise fun a b => a.place < b.place := by
  induction cs generalizing i with
  | nil => exact .nil
  | cons c cs ih =>
    rw [groupsFrom, List.pairwise_append]
    refine ⟨?_, ih (i + 1), fun a ha b hb => ?_⟩
    · cases group? (c :: cs) with
      | none => exact .nil
      | some g => exact List.pairwise_singleton _ _
    -- the group at this place comes before all that open further on
    · have hb' := (mem_groupsFrom_iff.mp hb).1.bounds.1
      obtain ⟨g, -, rfl⟩ := Option.map_eq_some_iff.mp (Option.mem_toList.mp ha)
      exact hb'

/-- Where no bracket opens, no group does. -/
theorem groupsFrom_append_of_not_mem {before : List Char} (h : '[' ∉ before) (i : Nat)
    (rest : List Char) : groupsFrom i (before ++ rest) = groupsFrom (i + before.length) rest := by
  induction before generalizing i with
  | nil => rfl
  | cons c before ih =>
    rw [List.mem_cons, not_or] at h
    rw [List.cons_append, groupsFrom, group?_of_ne (Ne.symm h.1), ih h.2, List.length_cons,
      Nat.add_right_comm, Nat.add_assoc]
    rfl

/-- The groups of a text open in its first part, or are those of the second. -/
theorem exists_groupsFrom_append (i : Nat) (cs rest : List Char) :
    ∃ gs, groupsFrom i (cs ++ rest) = gs ++ groupsFrom (i + cs.length) rest ∧
      ∀ g ∈ gs, i ≤ g.place ∧ g.place < i + cs.length := by
  induction cs generalizing i with
  | nil => exact ⟨[], rfl, nofun⟩
  | cons c cs ih =>
    obtain ⟨gs, hgs, hplaces⟩ := ih (i + 1)
    have hlength : i + 1 + cs.length = i + (c :: cs).length := by
      rw [List.length_cons]
      omega
    refine ⟨((group? (c :: (cs ++ rest))).map fun g => ⟨i, g.1⟩).toList ++ gs, ?_, ?_⟩
    · rw [List.cons_append, groupsFrom, hgs, hlength, List.append_assoc]
    · intro g hg
      rcases List.mem_append.mp hg with hg | hg
      · obtain ⟨_, -, rfl⟩ := Option.map_eq_some_iff.mp (Option.mem_toList.mp hg)
        exact ⟨Nat.le_refl i, by rw [List.length_cons]; show i < _; omega⟩
      · have hbounds := hplaces g hg
        omega

theorem groupsFrom_of_no_nextGroup? {cs : List Char} (h : nextGroup? cs = none) (i : Nat) :
    groupsFrom i cs = [] := by
  induction cs generalizing i with
  | nil => rfl
  | cons c cs ih =>
    rw [nextGroup?] at h
    split at h
    · cases h
    · next hgroup =>
      rw [groupsFrom, hgroup, ih h]
      rfl

/-- The first group of a text is the next one for the reader, and the others stand behind it. -/
theorem groupsFrom_of_nextGroup? {cs x rest : List Char} (h : nextGroup? cs = some (x, rest))
    (i : Nat) : ∃ k, k + x.length + 2 + rest.length = i + cs.length ∧ i ≤ k ∧
      groupsFrom i cs = ⟨k, x⟩ :: groupsFrom (k + x.length + 2) rest := by
  induction cs generalizing i with
  | nil => cases h
  | cons c cs ih =>
    rw [nextGroup?] at h
    split at h
    · next g hgroup =>
      obtain rfl := Option.some.inj h
      obtain ⟨hne, hcode, hcs⟩ := group?_sound hgroup
      -- none opens inside this one, so the others are those behind the closing bracket
      have hopen : '[' ∉ x ++ [']'] := by
        intro hmem
        rcases List.mem_append.mp hmem with hmem | hmem
        · exact absurd (hcode _ hmem) (by decide)
        · exact absurd hmem (by decide)
      have hrest : cs = x ++ [']'] ++ rest := by
        rw [List.cons.injEq] at hcs
        rw [hcs.2, List.append_assoc, List.singleton_append]
      refine ⟨i, ?_, Nat.le_refl i, ?_⟩
      · rw [hcs]
        simp only [List.length_cons, List.length_append]
        omega
      · have hplace : i + 1 + (x ++ [']']).length = i + x.length + 2 := by
          rw [List.length_append, List.length_singleton]
          omega
        rw [groupsFrom, hgroup, hrest, groupsFrom_append_of_not_mem hopen, hplace]
        rfl
    -- no group opens here, so the reader and the enumeration both go on by one place
    · next hgroup =>
      obtain ⟨k, hlength, hle, hgroups⟩ := ih h (i + 1)
      refine ⟨k, ?_, Nat.le_of_succ_le hle, ?_⟩
      · rw [List.length_cons]
        omega
      · rw [groupsFrom, hgroup, hgroups]
        rfl

/-! ### Reading with places -/

/-- The text of the message in an entry, if it has one. -/
def Entry.message? : Entry → Option (List Char)
  | .column _ message? => message?
  | .message text => some text

/-- The messages in entries that are given with the places behind them: each with the place of its
opening quote, which is as far back as the message and its two quotes are long. -/
def quotations (es : List (Entry × Nat)) : List Enclosed :=
  es.filterMap fun e => e.1.message?.map fun text => ⟨e.2 - (text.length + 2), text⟩

/-- The entries that `cs` starts with, each with the place behind it, where `cs` is the end of a
text of `n` characters. -/
def placedEntries (n : Nat) (cs : List Char) : List (Entry × Nat) :=
  match _he : entry? cs with
  | none => []
  | some (e, rest) =>
    match _hs : sign? ',' rest with
    | none => [(e, n - rest.length)]
    | some rest' => (e, n - rest.length) :: placedEntries n rest'
termination_by cs.length
decreasing_by
  have h₁ := entry?_length _he
  have h₂ := sign?_length _hs
  omega

/-- The entries behind the group of a code, with their places. -/
def placedAfterCode (n : Nat) (cs : List Char) : List (Entry × Nat) :=
  match sign? ':' cs with
  | none => []
  | some body => placedEntries n body

/-- A declaration where it stands: its group, and its entries with the places behind them. -/
structure Placed where
  group : Enclosed
  entries : List (Entry × Nat)
  deriving DecidableEq, Repr

namespace Placed

/-- The declaration, without its place. -/
def written (p : Placed) : Written := ⟨trim p.group.inside, p.entries.map Prod.fst⟩

/-- The messages in the entries of a declaration. -/
def messages (p : Placed) : List Enclosed := quotations p.entries

/-- The declarations in `cs` with their places, where `cs` is the end of a text of `n` characters.
-/
def all (n : Nat) (cs : List Char) : List Placed :=
  match _hg : nextGroup? cs with
  | none => []
  | some (x, rest) =>
    if trim x = [] then all n rest
    else
      ⟨⟨n - rest.length - (x.length + 2), x⟩, placedAfterCode n rest⟩ ::
        all n (entriesAfterCode rest).2
termination_by cs.length
decreasing_by
  · exact nextGroup?_length _hg
  · exact Nat.lt_of_le_of_lt (entriesAfterCode_length_le rest) (nextGroup?_length _hg)

end Placed

/-- The declarations in a text, where they stand. -/
def placed (cs : List Char) : List Placed := Placed.all cs.length cs

theorem map_fst_placedEntries (n : Nat) (cs : List Char) :
    (placedEntries n cs).map Prod.fst = (entries cs).1 := by
  fun_induction placedEntries n cs with
  | case1 cs he => rw [entries_eq_nil he, List.map_nil]
  | case2 cs e rest he hs => rw [entries_eq_singleton he hs, List.map_singleton]
  | case3 cs e rest he rest' hs ih => rw [entries_eq_cons he hs, List.map_cons, ih]

theorem map_fst_placedAfterCode (n : Nat) (cs : List Char) :
    (placedAfterCode n cs).map Prod.fst = (entriesAfterCode cs).1 := by
  unfold placedAfterCode entriesAfterCode
  cases sign? ':' cs with
  | none => rfl
  | some body => exact map_fst_placedEntries n body

theorem Placed.map_written_all (n : Nat) (cs : List Char) :
    (all n cs).map written = Written.all cs := by
  fun_induction all n cs with
  | case1 cs hg => rw [Written.all_eq_nil hg, List.map_nil]
  | case2 cs x rest hg hx ih => rw [ih, Written.all_eq_of_blank hg hx]
  | case3 cs x rest hg hx ih =>
    rw [List.map_cons, ih, Written.all_eq_cons hg hx, written, map_fst_placedAfterCode]

/-! ### What a step takes -/

/-- From `cs`, the end of a text of `n` characters, the reader has come to `rest`, with the messages
`ms` in what it took; all groups that open there do so in one of these messages. -/
def ReadTo (n : Nat) (cs rest : List Char) (ms : List Enclosed) : Prop :=
  ∃ taken gs, cs = taken ++ rest ∧
    (∀ m ∈ ms, m.StandsFrom (n - cs.length) '"' '"' taken) ∧
    groupsFrom (n - cs.length) cs = gs ++ groupsFrom (n - rest.length) rest ∧
    ∀ g ∈ gs, ∃ m ∈ ms, m.Covers g.place

namespace ReadTo

variable {n : Nat} {cs rest : List Char}

theorem refl (n : Nat) (cs : List Char) : ReadTo n cs cs [] :=
  ⟨[], [], rfl, nofun, rfl, nofun⟩

theorem place_append {before : List Char} (hn : (before ++ rest).length ≤ n) :
    n - (before ++ rest).length + before.length = n - rest.length := by
  rw [List.length_append] at hn ⊢
  omega

/-- A step that takes no opening bracket. -/
theorem plain {before : List Char} (hopen : '[' ∉ before) (hn : (before ++ rest).length ≤ n) :
    ReadTo n (before ++ rest) rest [] := by
  refine ⟨before, [], rfl, nofun, ?_, nofun⟩
  rw [groupsFrom_append_of_not_mem hopen, place_append hn, List.nil_append]

/-- A step that takes a message. -/
theorem quotation {text : List Char} (hn : ('"' :: (text ++ '"' :: rest)).length ≤ n) :
    ReadTo n ('"' :: (text ++ '"' :: rest)) rest [⟨n - rest.length - (text.length + 2), text⟩] := by
  have hplace : n - rest.length - (text.length + 2) =
      n - ('"' :: (text ++ '"' :: rest)).length := by
    simp only [List.length_cons, List.length_append]
    omega
  -- the place of the opening quote gets a name; all other places are counted from it
  obtain ⟨i, hi⟩ : ∃ i, n - ('"' :: (text ++ '"' :: rest)).length = i := ⟨_, rfl⟩
  unfold ReadTo
  rw [hplace, hi]
  obtain ⟨gs, hgs, hplaces⟩ := exists_groupsFrom_append (i + 1) text ('"' :: rest)
  refine ⟨'"' :: (text ++ ['"']), gs, by simp, ?_, ?_, ?_⟩
  · intro m hm
    rw [List.mem_singleton.mp hm]
    exact ⟨[], [], rfl, rfl⟩
  -- neither of the two quotes opens a group, so only those within the text are left over
  · have hend : i + 1 + text.length + 1 = n - rest.length := by
      simp only [List.length_cons, List.length_append] at hi hn
      omega
    rw [groupsFrom, group?_of_ne (by decide), hgs, groupsFrom, group?_of_ne (by decide), hend]
    rfl
  · intro g hg
    have hbounds := hplaces g hg
    refine ⟨⟨i, text⟩, List.mem_singleton_self _, ?_⟩
    show i < g.place ∧ g.place ≤ i + text.length
    omega

/-- One step after another. -/
theorem trans {mid : List Char} {ms ms' : List Enclosed} (hn : cs.length ≤ n)
    (h : ReadTo n cs mid ms) (h' : ReadTo n mid rest ms') : ReadTo n cs rest (ms ++ ms') := by
  obtain ⟨taken, gs, rfl, hstands, hgroups, hcovered⟩ := h
  obtain ⟨taken', gs', rfl, hstands', hgroups', hcovered'⟩ := h'
  refine ⟨taken ++ taken', gs ++ gs', by rw [List.append_assoc], fun m hm => ?_, ?_, fun g hg => ?_⟩
  · rcases List.mem_append.mp hm with hm | hm
    · exact (hstands m hm).append_right taken'
    · have hm' := hstands' m hm
      rw [← place_append hn] at hm'
      exact hm'.append_left
  · rw [hgroups, hgroups', List.append_assoc]
  · rcases List.mem_append.mp hg with hg | hg
    · obtain ⟨m, hm, hcovers⟩ := hcovered g hg
      exact ⟨m, List.mem_append_left ms' hm, hcovers⟩
    · obtain ⟨m, hm, hcovers⟩ := hcovered' g hg
      exact ⟨m, List.mem_append_right ms hm, hcovers⟩

theorem length_le {ms : List Enclosed} (h : ReadTo n cs rest ms) : rest.length ≤ cs.length := by
  obtain ⟨taken, -, rfl, -⟩ := h
  rw [List.length_append]
  omega

theorem sign {c : Char} (hc : c ≠ '[') (hn : cs.length ≤ n) (h : sign? c cs = some rest) :
    ReadTo n cs rest [] := by
  obtain ⟨w, hw, rfl⟩ := sign?_sound h
  have hopen : '[' ∉ w ++ [c] := by
    rw [List.mem_append, List.mem_singleton, not_or]
    exact ⟨hw.not_mem rfl, Ne.symm hc⟩
  rw [← List.singleton_append, ← List.append_assoc] at hn ⊢
  exact plain hopen hn

end ReadTo

/-- What an entry is written with: signs that are no bracket, and its message between quotes. -/
theorem Grammar.EntryText.exists_quotation {t : List Char} {e : Entry} (h : EntryText t e) :
    ∃ before, '[' ∉ before ∧
      t = before ++ (e.message?.elim [] fun text => '"' :: (text ++ ['"'])) := by
  have hdigits : ∀ {ds : List Char}, IsNumeral ds → '[' ∉ ds := fun hds hmem =>
    absurd (hds.2 _ hmem) (by decide)
  cases h with
  | column hds => exact ⟨t, hdigits hds, (List.append_nil t).symm⟩
  | @columnMessage ds w text hds hw htext =>
    refine ⟨ds ++ w, ?_, by simp [Entry.message?]⟩
    rw [List.mem_append, not_or]
    exact ⟨hdigits hds, hw.not_mem rfl⟩
  | message htext => exact ⟨[], List.not_mem_nil, rfl⟩

theorem readTo_entry {n : Nat} {cs rest : List Char} {e : Entry} (hn : cs.length ≤ n)
    (h : entry? cs = some (e, rest)) : ReadTo n cs rest (quotations [(e, n - rest.length)]) := by
  obtain ⟨w, t, hw, ht, rfl⟩ := entry?_sound h
  obtain ⟨before, hbefore, rfl⟩ := ht.exists_quotation
  have hopen : '[' ∉ w ++ before := by
    rw [List.mem_append, not_or]
    exact ⟨hw.not_mem rfl, hbefore⟩
  -- without a message the entry takes no opening bracket; a message is its last part
  cases hmessage : e.message? with
  | none =>
    rw [hmessage] at hn
    have hms : quotations [(e, n - rest.length)] = [] := by simp [quotations, hmessage]
    have hshape : w ++ (before ++ [] ++ rest) = w ++ before ++ rest := by simp
    rw [hms]
    exact hshape ▸ ReadTo.plain hopen (hshape ▸ hn)
  | some text =>
    rw [hmessage] at hn
    have hms : quotations [(e, n - rest.length)] =
        [] ++ [⟨n - rest.length - (text.length + 2), text⟩] := by simp [quotations, hmessage]
    have hshape : w ++ (before ++ ('"' :: (text ++ ['"'])) ++ rest) =
        w ++ before ++ '"' :: (text ++ '"' :: rest) := by simp
    rw [hms]
    have hn' : (w ++ before ++ '"' :: (text ++ '"' :: rest)).length ≤ n := hshape ▸ hn
    have hplain := ReadTo.plain hopen hn'
    exact hshape ▸ hplain.trans hn' (ReadTo.quotation (hplain.length_le.trans hn'))

theorem quotations_cons (e : Entry × Nat) (es : List (Entry × Nat)) :
    quotations (e :: es) = quotations [e] ++ quotations es := by
  rw [quotations, quotations, quotations, ← List.filterMap_append, List.singleton_append]

/-- The reader takes a list of entries and no opening bracket but those in their messages. -/
theorem readTo_entries {n : Nat} (cs : List Char) (hn : cs.length ≤ n) :
    ReadTo n cs (entries cs).2 (quotations (placedEntries n cs)) := by
  fun_induction placedEntries n cs with
  | case1 cs he =>
    rw [entries_eq_nil he]
    exact .refl n cs
  | case2 cs e rest he hs =>
    rw [entries_eq_singleton he hs]
    exact readTo_entry hn he
  | case3 cs e rest he rest' hs ih =>
    have hentry := readTo_entry hn he
    have hrest := hentry.length_le.trans hn
    have hcomma := ReadTo.sign (by decide) hrest hs
    rw [entries_eq_cons he hs, quotations_cons]
    exact hentry.trans hn (hcomma.trans hrest (ih (hcomma.length_le.trans hrest)))

theorem readTo_afterCode {n : Nat} (cs : List Char) (hn : cs.length ≤ n) :
    ReadTo n cs (entriesAfterCode cs).2 (quotations (placedAfterCode n cs)) := by
  unfold entriesAfterCode placedAfterCode
  cases hs : sign? ':' cs with
  | none => exact .refl n cs
  | some body =>
    have hcolon := ReadTo.sign (by decide) hn hs
    exact hcolon.trans hn (readTo_entries body (hcolon.length_le.trans hn))

/-! ### Groups that are declared -/

/-- The messages of several declarations. -/
def messagesOf (ps : List Placed) : List Enclosed := ps.flatMap Placed.messages

/-- Whether a group declares something where the messages `ms` are read: it is not blank, and does
not open in any of them. -/
def Declares (ms : List Enclosed) (g : Enclosed) : Prop :=
  trim g.inside ≠ [] ∧ ∀ m ∈ ms, ¬ m.Covers g.place

instance (ms : List Enclosed) (g : Enclosed) : Decidable (Declares ms g) :=
  inferInstanceAs (Decidable (_ ∧ _))

/-- The reader passes over nothing but prose up to the first group. -/
theorem nextGroup?_places {n : Nat} {cs x rest : List Char} (hn : cs.length ≤ n)
    (h : nextGroup? cs = some (x, rest)) :
    (∃ before, cs = before ++ rest) ∧
      groupsFrom (n - cs.length) cs =
        ⟨n - rest.length - (x.length + 2), x⟩ :: groupsFrom (n - rest.length) rest := by
  obtain ⟨-, -, before, hcs⟩ := nextGroup?_sound h
  obtain ⟨k, hlength, -, hgroups⟩ := groupsFrom_of_nextGroup? h (n - cs.length)
  refine ⟨⟨before ++ '[' :: (x ++ [']']), by rw [hcs]; simp⟩, ?_⟩
  -- the reader counts places from the end of the text, the enumeration from its start
  have hopen : n - rest.length - (x.length + 2) = k := by omega
  have hclose : n - rest.length = k + x.length + 2 := by omega
  rw [hgroups, hopen, hclose]

/-- A group declares something if it opens before all messages. -/
theorem declares_of_le {ms : List Enclosed} {g : Enclosed} (hg : trim g.inside ≠ [])
    (h : ∀ m ∈ ms, g.place ≤ m.place) : Declares ms g := by
  refine ⟨hg, fun m hm hcovers => ?_⟩
  exact absurd hcovers.1 (Nat.not_lt.mpr (h m hm))

/-- Messages that end before a group opens do not count for it. -/
theorem declares_append_iff {ms ms' : List Enclosed} {g : Enclosed}
    (h : ∀ m ∈ ms, m.place + m.inside.length < g.place) :
    Declares (ms ++ ms') g ↔ Declares ms' g := by
  refine and_congr_right fun _ => ⟨fun hall m hm => hall m (List.mem_append_right ms hm), ?_⟩
  intro hall m hm
  rcases List.mem_append.mp hm with hm | hm
  · intro hcovers
    exact absurd hcovers.2 (Nat.not_le.mpr (h m hm))
  · exact hall m hm

/-- Of the groups from one that is not blank on, those that open in the messages `ms` of its entries
declare nothing, and behind these entries the messages `ms` do not count. -/
theorem filter_declares {k j : Nat} {x taken rest : List Char} {ms ms' gs : List Enclosed}
    (hx : trim x ≠ []) (hj : k ≤ j) (hstands : ∀ m ∈ ms, m.StandsFrom j '"' '"' taken)
    (hstands' : ∀ m ∈ ms', m.StandsFrom (j + taken.length) '"' '"' rest)
    (hcovered : ∀ g ∈ gs, ∃ m ∈ ms, m.Covers g.place) :
    ((⟨k, x⟩ :: (gs ++ groupsFrom (j + taken.length) rest)).filter
        fun g => Declares (ms ++ ms') g) =
      ⟨k, x⟩ :: (groupsFrom (j + taken.length) rest).filter fun g => Declares ms' g := by
  have hfirst : Declares (ms ++ ms') ⟨k, x⟩ := by
    refine declares_of_le hx fun m hm => hj.trans ?_
    rcases List.mem_append.mp hm with hm | hm
    · exact (hstands m hm).bounds.1
    · exact (Nat.le_add_right j _).trans (hstands' m hm).bounds.1
  -- what opens in the part that was taken does so in one of its messages
  have hinside : (gs.filter fun g => Declares (ms ++ ms') g) = [] := by
    refine List.filter_eq_nil_iff.mpr fun g hg hdeclares => ?_
    obtain ⟨m, hm, hcovers⟩ := hcovered g hg
    exact (of_decide_eq_true hdeclares).2 m (List.mem_append_left ms' hm) hcovers
  -- and for what opens behind that part, its messages have ended
  have hbehind : ∀ g ∈ groupsFrom (j + taken.length) rest,
      Declares (ms ++ ms') g ↔ Declares ms' g := by
    intro g hg
    have hplace := (mem_groupsFrom_iff.mp hg).1.bounds.1
    refine declares_append_iff fun m hm => ?_
    have hend := (hstands m hm).bounds.2
    omega
  rw [List.filter_cons, if_pos (decide_eq_true hfirst), List.filter_append, hinside,
    List.nil_append]
  exact congrArg _ (List.filter_congr fun g hg => decide_eq_decide.mpr (hbehind g hg))

/-- The declarations in a text have their messages in this text, and their groups are those that
declare something where these messages are read. -/
theorem Placed.groups_all {n : Nat} (cs : List Char) (hn : cs.length ≤ n) :
    (∀ m ∈ messagesOf (all n cs), m.StandsFrom (n - cs.length) '"' '"' cs) ∧
      (all n cs).map group =
        (groupsFrom (n - cs.length) cs).filter fun g => Declares (messagesOf (all n cs)) g := by
  fun_induction all n cs with
  | case1 cs hg =>
    rw [groupsFrom_of_no_nextGroup? hg]
    exact ⟨nofun, rfl⟩
  | case2 cs x rest hg hx ih =>
    obtain ⟨⟨before, rfl⟩, hgroups⟩ := nextGroup?_places hn hg
    have hrest : rest.length ≤ n := by
      rw [List.length_append] at hn
      omega
    obtain ⟨hstands, hplaced⟩ := ih hrest
    refine ⟨fun m hm => ?_, ?_⟩
    · have hm' := hstands m hm
      rw [← ReadTo.place_append hn] at hm'
      exact hm'.append_left
    -- a blank group declares nothing, whatever the messages
    · rw [hgroups, List.filter_cons_of_neg (by simp [Declares, hx]), hplaced]
  | case3 cs x rest hg hx ih =>
    obtain ⟨⟨before, rfl⟩, hgroups⟩ := nextGroup?_places hn hg
    have hrest : rest.length ≤ n := by
      rw [List.length_append] at hn
      omega
    -- the step takes the entries behind the group; the induction is about what follows them
    have hread := readTo_afterCode rest hrest
    obtain ⟨hstands', hplaced⟩ := ih (hread.length_le.trans hrest)
    obtain ⟨taken, gs, htaken, hstands, hgroups', hcovered⟩ := hread
    generalize (entriesAfterCode rest).2 = rest' at *
    subst htaken
    have hplace := ReadTo.place_append hrest
    rw [← hplace] at hstands' hgroups' hplaced
    refine ⟨fun m hm => ?_, ?_⟩
    · have hm' : m.StandsFrom (n - (taken ++ rest').length) '"' '"' (taken ++ rest') := by
        rcases List.mem_append.mp hm with hm | hm
        · exact (hstands m hm).append_right rest'
        · exact (hstands' m hm).append_left
      rw [← ReadTo.place_append hn] at hm'
      exact hm'.append_left
    · rw [hgroups, hgroups', List.map_cons, hplaced]
      exact (filter_declares hx (Nat.sub_le _ _) hstands hstands' hcovered).symm

/-- A message that is read holds no quote, and an issue of its declaration carries it. -/
theorem Placed.exists_issue {cs : List Char} {p : Placed} (hp : p ∈ placed cs) {m : Enclosed}
    (hm : m ∈ p.messages) :
    '"' ∉ m.inside ∧ ∃ i ∈ p.written.declaration.issues, i.message = String.ofList m.inside := by
  obtain ⟨⟨e, k⟩, he, hmessage⟩ := List.mem_filterMap.mp hm
  obtain ⟨text, htext, rfl⟩ := Option.map_eq_some_iff.mp hmessage
  have hentry : e ∈ p.written.entries := List.mem_map_of_mem he
  have hwritten : p.written ∈ Written.all cs := by
    rw [← Placed.map_written_all cs.length cs]
    exact List.mem_map_of_mem hp
  obtain ⟨t, ht, -⟩ := (Written.foundIn_of_mem_all cs p.written hwritten).entries e hentry
  refine ⟨?_, e.issue, List.mem_map_of_mem hentry, ?_⟩
  -- in every form of an entry, what stands between the quotes holds none
  · cases ht with
    | column hds => cases htext
    | columnMessage hds hw hquote => exact Option.some.inj htext ▸ hquote
    | message hquote => exact Option.some.inj htext ▸ hquote
  · cases e with
    | column digits message? =>
      obtain rfl : message? = some text := htext
      rfl
    | message text' => exact congrArg String.ofList (Option.some.inj htext)

/-- The codes of the declarations are what stands in their groups. -/
theorem map_code_placed (ps : List Placed) :
    (ps.map fun p => p.written.declaration.code) =
      (ps.map Placed.group).map fun g => String.ofList (trim g.inside) := by
  rw [List.map_map]
  rfl

/-- Without a quote in the text, every group that is not blank declares something. -/
theorem declares_of_not_mem {cs : List Char} (h : '"' ∉ cs) (g : Enclosed) :
    Declares (messagesOf (placed cs)) g ↔ trim g.inside ≠ [] := by
  refine ⟨And.left, fun hg => ⟨hg, fun m hm => ?_⟩⟩
  obtain ⟨before, after, hcs, -⟩ := (Placed.groups_all cs (Nat.le_refl _)).1 m hm
  exact absurd (by rw [hcs]; simp) h

/-- No group is missed and none is made up: the declarations of a comment stand, in their order, for
those of its groups that are not blank and do not open in a message that was read. Such a message
stands between two quotes of the comment, and an issue of the declaration in which it was read
carries it. So where a comment holds no quote, it declares all its groups but the blank ones. -/
theorem ofComment_eq_groups {cs : List Char} {ds : List Declaration} (h : ofComment cs = .ok ds) :
    (∀ g, g ∈ groups cs ↔ IsGroup cs g) ∧
      ((groups cs).Pairwise fun a b => a.place < b.place) ∧
      ds = ((placed cs).map fun p => p.written.declaration) ∧
      (placed cs).map Placed.group =
        ((groups cs).filter fun g => Declares (messagesOf (placed cs)) g) ∧
      (ds.map Declaration.code =
        (((groups cs).filter fun g => Declares (messagesOf (placed cs)) g).map
          fun g => String.ofList (trim g.inside))) ∧
      (∀ p ∈ placed cs, ∀ m ∈ p.messages, m.StandsFrom 0 '"' '"' cs ∧ '"' ∉ m.inside ∧
        ∃ i ∈ p.written.declaration.issues, i.message = String.ofList m.inside) ∧
      ('"' ∉ cs → ds.map Declaration.code =
        (((groups cs).filter fun g => trim g.inside ≠ []).map
          fun g => String.ofList (trim g.inside))) := by
  obtain ⟨hmessages, hgroups⟩ := Placed.groups_all cs (Nat.le_refl _)
  rw [Nat.sub_self] at hmessages hgroups
  have hds : ds = (placed cs).map fun p => p.written.declaration := by
    -- with the digits readable, the declarations are the written ones with their numbers read
    rw [ofComment_eq] at h
    obtain ⟨-, rfl⟩ := Text.Numeral.unlessTooLong_eq_ok_iff.mp h
    rw [declared, ← Placed.map_written_all cs.length cs, List.map_map]
    rfl
  have hcodes : ds.map Declaration.code =
      ((groups cs).filter fun g => Declares (messagesOf (placed cs)) g).map
        fun g => String.ofList (trim g.inside) := by
    rw [hds, List.map_map]
    exact (map_code_placed (placed cs)).trans (congrArg _ hgroups)
  refine ⟨fun g => mem_groups_iff, pairwise_groupsFrom 0 cs, hds, hgroups, hcodes, ?_, ?_⟩
  · intro p hp m hm
    exact ⟨hmessages m (List.mem_flatMap.mpr ⟨p, hp, hm⟩), Placed.exists_issue hp hm⟩
  · intro hquote
    rw [hcodes]
    refine congrArg _ (List.filter_congr fun g _ => ?_)
    exact decide_eq_decide.mpr (declares_of_not_mem hquote g)

/-- A group in a message, a blank one, one behind a bracket that opens none, and one behind a quote
that opens no message. -/
theorem ofComment_eq_groups_groupInMessage :
    ofComment "[A]: 3 \"x [B] y\", [ ] [[C] \"[D]".toList =
        .ok [⟨"A", [⟨"x [B] y", 3⟩]⟩, ⟨"C", []⟩, ⟨"D", []⟩] ∧
      (placed "[A]: 3 \"x [B] y\", [ ] [[C] \"[D]".toList).map Placed.group =
        ((groups "[A]: 3 \"x [B] y\", [ ] [[C] \"[D]".toList).filter fun g =>
          Declares (messagesOf (placed "[A]: 3 \"x [B] y\", [ ] [[C] \"[D]".toList)) g) := by
  have hread : ofComment "[A]: 3 \"x [B] y\", [ ] [[C] \"[D]".toList =
      .ok [⟨"A", [⟨"x [B] y", 3⟩]⟩, ⟨"C", []⟩, ⟨"D", []⟩] := by
    decide +kernel
  exact ⟨hread, (ofComment_eq_groups hread).2.2.2.1⟩

end FixturePragmas.Declaration
