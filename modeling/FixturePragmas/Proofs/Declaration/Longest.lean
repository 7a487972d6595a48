import FixturePragmas.Proofs.Declaration.Soundness

/-!
# The longest list of entries

A list of entries is read in rounds. A round that goes on takes an entry and the comma behind it,
and so at least one character; the last round takes an entry or nothing (`exists_rounds`). What they
take together is written as a list of entries, behind the last of which a comma may stand
(`exists_listText_entries`), and is at least as long as any other such list with which the text
starts (`length_entries_append_le`): a numeral goes on as long as there are digits, and behind an
entry the next sign decides whether it is a message, a comma or the end. So from any position of a
text the longest list of entries that stands there is taken, and nothing else (`entries_longest`).
-/

namespace FixturePragmas.Declaration

open Text (Blank isAsciiDigit)
open Text.Numeral (limit unlessTooLong_eq_ok_iff)
open Grammar

/-! ### Lists that may end in a comma -/

namespace Grammar

/-- `entry ("," entry)*`, with white space before the signs and none behind the last one. -/
inductive EntryRun : List Char → List Entry → Prop
  | last {v t : List Char} {e : Entry} (hv : Blank v) (he : EntryText t e) : EntryRun (v ++ t) [e]
  | more {v t w rest : List Char} {e : Entry} {es : List Entry} (hv : Blank v)
      (he : EntryText t e) (hw : Blank w) (hes : EntryRun rest es) :
      EntryRun (v ++ (t ++ (w ++ ',' :: rest))) (e :: es)

/-- Nothing, or entries with commas between them, behind which one more comma may stand. -/
inductive ListText : List Char → List Entry → Prop
  | nothing : ListText [] []
  | run {cs : List Char} {es : List Entry} (h : EntryRun cs es) : ListText cs es
  | comma {cs w : List Char} {es : List Entry} (h : EntryRun cs es) (hw : Blank w) :
      ListText (cs ++ (w ++ [','])) es

/-- An entry and a comma before a list. -/
theorem ListText.cons {v t w rest : List Char} {e : Entry} {es : List Entry} (hv : Blank v)
    (he : EntryText t e) (hw : Blank w) (h : ListText rest es) :
    ListText (v ++ (t ++ (w ++ ',' :: rest))) (e :: es) := by
  cases h with
  | nothing =>
    have hlist : ListText (v ++ t ++ (w ++ [','])) [e] := .comma (.last hv he) hw
    rwa [List.append_assoc] at hlist
  | run h => exact .run (.more hv he hw h)
  | @comma cs w' es h hw' =>
    have hlist := ListText.comma (.more hv he hw h) hw'
    simpa only [List.append_assoc, List.cons_append] using hlist

/-- A list is nothing, one entry, or an entry, a comma and a list. -/
theorem ListText.inductionOn {motive : ∀ cs es, ListText cs es → Prop}
    {cs : List Char} {es : List Entry} (h : ListText cs es)
    (nothing : motive [] [] .nothing)
    (last : ∀ {v t : List Char} {e : Entry} (hv : Blank v) (he : EntryText t e),
      motive (v ++ t) [e] (.run (.last hv he)))
    (cons : ∀ {v t w rest : List Char} {e : Entry} {es : List Entry} (hv : Blank v)
      (he : EntryText t e) (hw : Blank w) (h : ListText rest es), motive rest es h →
      motive (v ++ (t ++ (w ++ ',' :: rest))) (e :: es) (h.cons hv he hw)) :
    motive cs es h := by
  cases h with
  | nothing => exact nothing
  | run h =>
    induction h with
    | last hv he => exact last hv he
    | more hv he hw hes ih => exact cons hv he hw (.run hes) ih
  | @comma cs w' es h hw' =>
    have hcomma : ∀ h' : ListText (cs ++ (w' ++ [','])) es, motive _ es h' := by
      induction h with
      | @last v t e hv he =>
        rw [List.append_assoc]
        exact fun _ => cons hv he hw' .nothing nothing
      | @more v t w rest e es hv he hw hes ih =>
        have hshape : v ++ (t ++ (w ++ ',' :: rest)) ++ (w' ++ [',']) =
            v ++ (t ++ (w ++ ',' :: (rest ++ (w' ++ [','])))) := by
          simp only [List.append_assoc, List.cons_append]
        rw [hshape]
        exact fun _ => cons hv he hw (.comma hes hw') (ih (.comma hes hw'))
    exact hcomma _

end Grammar

/-- A list is read in full where nothing follows. -/
theorem entries_of_listText {cs : List Char} {es : List Entry} (h : ListText cs es) :
    entries cs = (es, []) := by
  have hnil : EndsEntry [] := ends_nil.endsEntry
  induction h using ListText.inductionOn with
  | nothing => exact entries_eq_nil rfl
  | @last v t e hv he =>
    have hentry := entry?_of_text hv he hnil
    rw [List.append_nil] at hentry
    exact entries_eq_singleton hentry rfl
  | @cons v t w rest e es hv he hw _ ih =>
    have hentry := entry?_of_text hv he (endsEntry_comma hw rest)
    rw [entries_eq_cons hentry (sign?_of_blank (by decide) hw rest), ih]

/-- A list is written by one text in one way only. -/
theorem Grammar.ListText.unique {cs : List Char} {es es' : List Entry} (h : ListText cs es)
    (h' : ListText cs es') : es' = es := by
  have hread := entries_of_listText h
  rw [entries_of_listText h', Prod.mk.injEq] at hread
  exact hread.1

/-! ### What is taken is a list -/

/-- The reader takes a list of entries, and these are the ones it reads. -/
theorem exists_listText_entries (cs : List Char) :
    ∃ t, ListText t (entries cs).1 ∧ cs = t ++ (entries cs).2 := by
  fun_induction entries cs with
  | case1 cs he => exact ⟨[], .nothing, rfl⟩
  | case2 cs e rest he hs =>
    obtain ⟨v, t, hv, ht, rfl⟩ := entry?_sound he
    exact ⟨v ++ t, .run (.last hv ht), (List.append_assoc v t rest).symm⟩
  | case3 cs e rest he rest' hs more ih =>
    obtain ⟨v, t, hv, ht, rfl⟩ := entry?_sound he
    obtain ⟨w, hw, rfl⟩ := sign?_sound hs
    obtain ⟨u, hu, hrest⟩ := ih
    refine ⟨v ++ (t ++ (w ++ ',' :: u)), hu.cons hv ht hw, ?_⟩
    simp only [List.append_assoc, List.cons_append]
    rw [← hrest]

/-! ### No longer list stands there -/

/-- A text that starts with an entry is read as one, and at least this entry is taken. -/
theorem exists_entry?_of_text {v t : List Char} {e : Entry} (hv : Blank v) (he : EntryText t e)
    (rest : List Char) :
    ∃ e' rest', entry? (v ++ (t ++ rest)) = some (e', rest') ∧ rest'.length ≤ rest.length := by
  cases he with
  | column hds =>
    -- the numeral goes on with the digits at the start of `rest`
    have hnumeral : IsNumeral (t ++ rest.takeWhile isAsciiDigit) := by
      refine ⟨by simp [hds.1], fun c hc => ?_⟩
      rcases List.mem_append.mp hc with hc | hc
      · exact hds.2 c hc
      · exact List.mem_takeWhile_imp hc
    have hstop : ∀ c ∈ (rest.dropWhile isAsciiDigit).head?, isAsciiDigit c = false := by
      intro c hc
      have hhead := List.head?_dropWhile_not isAsciiDigit rest
      rw [Option.mem_def.mp hc] at hhead
      exact hhead
    have hread := numeral?_of_blank hv hnumeral hstop
    rw [List.append_assoc, List.takeWhile_append_dropWhile] at hread
    have hle := (List.dropWhile_suffix (l := rest) isAsciiDigit).length_le
    unfold entry?
    rw [hread]
    dsimp only
    cases hq : quotation? (rest.dropWhile isAsciiDigit) with
    | none => exact ⟨_, _, rfl, hle⟩
    | some q => exact ⟨_, _, rfl, (Nat.le_of_lt (quotation?_length hq)).trans hle⟩
  | columnMessage hds hw htext =>
    exact ⟨_, _, entry?_of_columnMessage hv hds hw htext rest, Nat.le_refl _⟩
  | message htext => exact ⟨_, _, entry?_of_message hv htext rest, Nat.le_refl _⟩

theorem length_entries_le_of_entry?_eq_some {cs rest : List Char} {e : Entry}
    (he : entry? cs = some (e, rest)) : (entries cs).2.length ≤ rest.length := by
  cases hs : sign? ',' rest with
  | none => rw [entries_eq_singleton he hs]
  | some more =>
    rw [entries_eq_cons he hs]
    exact (entries_length_le more).trans (Nat.le_of_lt (sign?_length hs))

/-- Of a text that starts with a list at least this list is taken. -/
theorem length_entries_append_le {cs : List Char} {es : List Entry} (h : ListText cs es)
    (rest : List Char) : (entries (cs ++ rest)).2.length ≤ rest.length := by
  induction h using ListText.inductionOn with
  | nothing => exact entries_length_le rest
  | @last v t e hv he =>
    obtain ⟨e', rest', hentry, hle⟩ := exists_entry?_of_text hv he rest
    rw [List.append_assoc]
    exact (length_entries_le_of_entry?_eq_some hentry).trans hle
  | @cons v t w more e es hv he hw _ ih =>
    have hentry := entry?_of_text hv he (endsEntry_comma hw (more ++ rest))
    have hcomma : sign? ',' (w ++ ',' :: (more ++ rest)) = some (more ++ rest) :=
      sign?_of_blank (by decide) hw _
    simp only [List.append_assoc, List.cons_append]
    rw [entries_eq_cons hentry hcomma]
    exact ih

/-! ### Rounds -/

/-- A round that goes on: it reads the entry `e` and a comma in `cs`, and leaves `rest`. -/
def Round (cs : List Char) (e : Entry) (rest : List Char) : Prop :=
  ∃ mid, entry? cs = some (e, mid) ∧ sign? ',' mid = some rest

/-- The last round: it reads an entry without a comma behind it, or no entry. -/
inductive LastRound : List Char → List Entry → List Char → Prop
  | noEntry {cs : List Char} (he : entry? cs = none) : LastRound cs [] cs
  | noComma {cs rest : List Char} {e : Entry} (he : entry? cs = some (e, rest))
      (hs : sign? ',' rest = none) : LastRound cs [e] rest

/-- Rounds that go on, one after another: they read the entries `es` in `cs` and leave `rest`. -/
inductive Rounds : List Char → List Entry → List Char → Prop
  | none (cs : List Char) : Rounds cs [] cs
  | more {cs mid rest : List Char} {e : Entry} {es : List Entry} (h : Round cs e mid)
      (hes : Rounds mid es rest) : Rounds cs (e :: es) rest

/-- A round that goes on takes at least one character. -/
theorem Round.length_lt {cs rest : List Char} {e : Entry} (h : Round cs e rest) :
    rest.length < cs.length := by
  obtain ⟨mid, he, hs⟩ := h
  exact (sign?_length hs).trans (entry?_length he)

/-- There are no more rounds than characters. -/
theorem Rounds.length_add_le {cs rest : List Char} {es : List Entry} (h : Rounds cs es rest) :
    es.length + rest.length ≤ cs.length := by
  induction h with
  | none cs => exact Nat.le_of_eq (Nat.zero_add _)
  | more h _ ih =>
    have hlt := h.length_lt
    rw [List.length_cons]
    omega

/-- Reading a list is going through rounds until one is the last. -/
theorem exists_rounds (cs : List Char) : ∃ es mid last, Rounds cs es mid ∧
    LastRound mid last (entries cs).2 ∧ (entries cs).1 = es ++ last := by
  fun_induction entries cs with
  | case1 cs he => exact ⟨[], cs, [], .none cs, .noEntry he, rfl⟩
  | case2 cs e rest he hs => exact ⟨[], cs, [e], .none cs, .noComma he hs, rfl⟩
  | case3 cs e rest he rest' hs more ih =>
    obtain ⟨es, mid, last, hrounds, hlast, hread⟩ := ih
    exact ⟨e :: es, mid, last, .more ⟨rest, he, hs⟩ hrounds, hlast, congrArg (e :: ·) hread⟩

/-! ### From a position on -/

/-- That the longest list of entries from the position `pos` of a text on ends at `stop`, and is
made of the entries `es` and no others. -/
structure LongestList (text : List Char) (pos stop : Nat) (es : List Entry) : Prop where
  pos_le : pos ≤ stop
  le_length : stop ≤ text.length
  listText : ListText (text.extract pos stop) es
  unique : ∀ es', ListText (text.extract pos stop) es' → es' = es
  longest : ∀ stop' es', stop' ≤ text.length → ListText (text.extract pos stop') es' → stop' ≤ stop

theorem exists_longestList {text : List Char} {pos : Nat} (hpos : pos ≤ text.length) :
    ∃ stop, LongestList text pos stop (entries (text.drop pos)).1 ∧
      (entries (text.drop pos)).2 = text.drop stop := by
  obtain ⟨t, hlist, htext⟩ := exists_listText_entries (text.drop pos)
  have hlength := congrArg List.length htext
  rw [List.length_drop, List.length_append] at hlength
  have hextract : text.extract pos (pos + t.length) = t := by
    rw [List.extract_eq_take_drop, Nat.add_sub_cancel_left, htext, List.take_left']
    rfl
  have hrest : (entries (text.drop pos)).2 = text.drop (pos + t.length) := by
    have hdrop := congrArg (List.drop t.length) htext
    rw [List.drop_left, List.drop_drop] at hdrop
    exact hdrop.symm
  refine ⟨pos + t.length, ⟨Nat.le_add_right pos _, by omega, ?_, fun es' h => ?_, ?_⟩, hrest⟩
  · rw [hextract]
    exact hlist
  · rw [hextract] at h
    exact hlist.unique h
  · intro stop es hstop h
    -- a longer list would be read too, and leave less of the text than the reader leaves
    by_contra hlonger
    rw [Nat.not_le] at hlonger
    have hsplit : text.drop pos = text.extract pos stop ++ text.drop stop := by
      have htake := (List.take_append_drop (stop - pos) (text.drop pos)).symm
      rwa [List.drop_drop, Nat.add_sub_cancel' (by omega)] at htake
    have hle := length_entries_append_le h (text.drop stop)
    rw [← hsplit, hrest, List.length_drop, List.length_drop] at hle
    omega

/-- From any position of a text the reader takes the longest list of entries that stands there, and
goes on behind it. The issues are those of its entries, one for each in their order, unless a numeral
is too long. Each round but the last takes a character, so there is a last one. -/
theorem entries_longest {text : List Char} {pos : Nat} (hpos : pos ≤ text.length) :
    ∃ stop es, entries (text.drop pos) = (es, text.drop stop) ∧ LongestList text pos stop es ∧
      (∀ issues, es.mapM Entry.issue? = .ok issues ↔
        (∀ ds ∈ es.filterMap Entry.numeral?, ds.length ≤ limit) ∧ es.map Entry.issue = issues) ∧
      (∀ cs e rest, Round cs e rest → rest.length < cs.length) ∧
      (∃ before mid last, Rounds (text.drop pos) before mid ∧
        LastRound mid last (text.drop stop) ∧ es = before ++ last) ∧
      ∀ before mid, Rounds (text.drop pos) before mid →
        before.length + mid.length ≤ text.length - pos := by
  obtain ⟨stop, hlongest, hrest⟩ := exists_longestList hpos
  obtain ⟨before, mid, last, hrounds, hlast, hread⟩ := exists_rounds (text.drop pos)
  rw [hrest] at hlast
  refine ⟨stop, (entries (text.drop pos)).1, ?_, hlongest, fun issues => ?_,
    fun cs e rest => Round.length_lt, ⟨before, mid, last, hrounds, hlast, hread⟩,
    fun before mid h => ?_⟩
  · rw [← hrest]
  · rw [mapM_issue?_eq, unlessTooLong_eq_ok_iff]
  · rw [← List.length_drop]
    exact h.length_add_le

/-- Entries of all three kinds, white space before the signs, and a comma before a message that is
not closed. -/
theorem entries_longest_openMessage :
    4 ≤ "[A]:007 \"x\" , \"y\",\t10 , \"open".toList.length ∧
      LongestList "[A]:007 \"x\" , \"y\",\t10 , \"open".toList 4 23
        [.column "007".toList (some ['x']), .message ['y'], .column "10".toList none] := by
  have hpos : 4 ≤ "[A]:007 \"x\" , \"y\",\t10 , \"open".toList.length := by decide
  refine ⟨hpos, ?_⟩
  obtain ⟨stop, es, hread, hlongest, -⟩ := entries_longest hpos
  have hentries : entries ("[A]:007 \"x\" , \"y\",\t10 , \"open".toList.drop 4) =
      ([.column "007".toList (some ['x']), .message ['y'], .column "10".toList none],
        " \"open".toList) := by decide +kernel
  rw [hentries, Prod.mk.injEq] at hread
  obtain ⟨rfl, hrest⟩ := hread
  have hlength := congrArg List.length hrest
  have hstop := hlongest.le_length
  rw [List.length_drop] at hlength
  have hend : stop = 23 := by
    have htext : "[A]:007 \"x\" , \"y\",\t10 , \"open".toList.length = 29 := rfl
    have hopen : " \"open".toList.length = 6 := rfl
    omega
  rwa [hend] at hlongest

end FixturePragmas.Declaration
