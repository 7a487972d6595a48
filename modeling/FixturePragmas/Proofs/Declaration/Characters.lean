import FixturePragmas.Proofs.Declaration.RoundTrip

/-!
# Where the characters of declarations come from

The codes and messages that are read from a comment are pieces of it that do not overlap, in the
order in which they stand (`chars_sublist_of_ofComment`): no character of the comment is read twice.
The other way around, printing adds digits, signs and spaces only, so a control character stands in
the printed text as often as in the codes and messages (`count_renderAll`).
-/

namespace FixturePragmas

namespace Declaration

open Grammar
open Text (trim trimEnd trimStart)

/-! ### Reading -/

theorem Entry.message_sublist {t : List Char} {e : Entry} (h : EntryText t e) :
    e.issue.message.toList.Sublist t := by
  cases h with
  | column hds => simp [Entry.issue]
  | @columnMessage ds w text hds hw htext =>
    simp only [Entry.issue, Option.getD_some, String.toList_ofList]
    refine .trans ?_ (List.sublist_append_left _ ['"'])
    exact .trans (List.sublist_cons_self '"' text) (List.sublist_append_right (ds ++ w) _)
  | @message text htext =>
    simp only [Entry.issue, String.toList_ofList]
    exact .trans (List.sublist_cons_self '"' text) (List.sublist_append_left _ ['"'])

/-- The messages in a list of entries, and what is left behind it, stand in the text in this order.
-/
theorem messages_entries_sublist (cs : List Char) :
    ((entries cs).1.flatMap (fun e => e.issue.message.toList) ++ (entries cs).2).Sublist cs := by
  fun_induction entries cs with
  | case1 cs he => exact List.Sublist.refl cs
  | case2 cs e rest he hs =>
    obtain ⟨w, t, -, ht, rfl⟩ := entry?_sound he
    simp only [List.flatMap_singleton]
    exact .trans ((Entry.message_sublist ht).append_right rest) (List.sublist_append_right w _)
  | case3 cs e rest he rest' hs more ih =>
    obtain ⟨w, t, -, ht, rfl⟩ := entry?_sound he
    obtain ⟨v, -, rfl⟩ := sign?_sound hs
    rw [List.flatMap_cons, List.append_assoc]
    have hmore := ih.trans (.trans (List.sublist_cons_self ',' rest')
      (List.sublist_append_right v _))
    exact .trans ((Entry.message_sublist ht).append hmore) (List.sublist_append_right w _)

theorem messages_entriesAfterCode_sublist (cs : List Char) :
    ((entriesAfterCode cs).1.flatMap (fun e => e.issue.message.toList) ++
      (entriesAfterCode cs).2).Sublist cs := by
  unfold entriesAfterCode
  split
  · exact List.Sublist.refl cs
  · next body hs =>
    obtain ⟨w, -, rfl⟩ := sign?_sound hs
    refine (messages_entries_sublist body).trans ?_
    exact .trans (List.sublist_cons_self ':' body) (List.sublist_append_right w _)

theorem trim_sublist (cs : List Char) : (trim cs).Sublist cs := by
  have hend : (trimEnd (trimStart cs)).Sublist (trimStart cs) := by
    rw [Text.trimEnd_eq, ← List.reverse_sublist, List.reverse_reverse]
    exact List.dropWhile_sublist _
  exact hend.trans (List.dropWhile_sublist _)

theorem chars_declaration (w : Written) :
    w.declaration.chars = w.code ++ w.entries.flatMap fun e => e.issue.message.toList := by
  rw [chars, Written.declaration, String.toList_ofList, List.flatMap_map]

/-- What a comment declares is made of characters of it, none of them used twice. -/
theorem chars_declared_sublist (cs : List Char) : ((declared cs).flatMap chars).Sublist cs := by
  rw [declared, List.flatMap_map]
  fun_induction Written.all cs with
  | case1 cs hg => exact List.nil_sublist cs
  | case2 cs x rest hg hx ih =>
    obtain ⟨-, -, before, rfl⟩ := nextGroup?_sound hg
    refine ih.trans ?_
    exact .trans (.trans (List.sublist_cons_self ']' rest) (List.sublist_append_right x _))
      (.trans (List.sublist_cons_self '[' _) (List.sublist_append_right before _))
  | case3 cs x rest hg hx list ih =>
    obtain ⟨-, -, before, rfl⟩ := nextGroup?_sound hg
    rw [List.flatMap_cons, chars_declaration, List.append_assoc]
    have hlist := ((List.Sublist.refl _).append ih).trans (messages_entriesAfterCode_sublist rest)
    have hgroup := (trim_sublist x).append (hlist.trans (List.sublist_cons_self ']' rest))
    exact hgroup.trans (.trans (List.sublist_cons_self '[' _) (List.sublist_append_right before _))

theorem chars_sublist_of_ofComment {cs : List Char} {ds : List Declaration}
    (h : ofComment cs = .ok ds) : (ds.flatMap chars).Sublist cs := by
  rw [ofComment_eq] at h
  obtain ⟨-, rfl⟩ := Text.Numeral.unlessTooLong_eq_ok_iff.mp h
  exact chars_declared_sublist cs

end Declaration

/-! ### Printing -/

theorem Text.count_joined {c : Char} {sep : List Char} (hsep : c ∉ sep) (ts : List (List Char)) :
    (Text.joined sep ts).count c = ts.flatten.count c := by
  induction ts with
  | nil => rfl
  | cons t ts ih =>
    cases ts with
    | nil => simp [Text.joined]
    | cons u ts =>
      have hunfold : Text.joined sep (t :: u :: ts) = t ++ sep ++ Text.joined sep (u :: ts) := rfl
      rw [hunfold, List.count_append, List.count_append, List.count_eq_zero.mpr hsep, ih,
        Nat.add_zero, ← List.count_append, ← List.flatten_cons]

section

variable {c : Char} (hc : c.toNat < 0x20)

include hc

theorem not_mem_of_control {cs : List Char} (h : ∀ d ∈ cs, 0x20 ≤ d.toNat) : c ∉ cs :=
  fun hmem => absurd (h c hmem) (Nat.not_le.mpr hc)

theorem count_of_control {cs : List Char} (h : ∀ d ∈ cs, 0x20 ≤ d.toNat) : cs.count c = 0 :=
  List.count_eq_zero.mpr (not_mem_of_control hc h)

theorem Text.Numeral.count_ofInt (n : Int) : (Text.Numeral.ofInt n).count c = 0 := by
  have hdigits (m : Nat) : ∀ d ∈ Text.Numeral.digits m, 0x20 ≤ d.toNat := by
    intro d hd
    have hdigit := (Text.Numeral.isNumeral_digits m).2 d hd
    simp only [Text.isAsciiDigit, decide_eq_true_eq, Char.le_def, UInt32.le_iff_toNat_le] at hdigit
    have hle : 48 ≤ d.toNat := hdigit.1
    omega
  cases n with
  | ofNat n => exact count_of_control hc (hdigits n)
  | negSucc n => exact count_of_control hc (List.forall_mem_cons.mpr ⟨by decide, hdigits (n + 1)⟩)

theorem Issue.count_quotation (i : Issue) : i.quotation.count c = i.message.toList.count c := by
  have hquote : ['"'].count c = 0 := count_of_control hc (by simp)
  show (['"'] ++ i.message.toList ++ ['"']).count c = _
  rw [List.count_append, List.count_append, hquote, Nat.zero_add, Nat.add_zero]

theorem Issue.count_render (i : Issue) : i.render.count c = i.message.toList.count c := by
  have hspace : [' '].count c = 0 := count_of_control hc (by simp)
  unfold render
  split
  · exact i.count_quotation hc
  · split
    · next hempty =>
      rw [Text.Numeral.count_ofInt hc, hempty]
      rfl
    · show (Text.Numeral.ofInt i.column ++ ([' '] ++ i.quotation)).count c = _
      rw [List.count_append, List.count_append, Text.Numeral.count_ofInt hc, hspace,
        i.count_quotation hc, Nat.zero_add, Nat.zero_add]

namespace Declaration

theorem count_render (d : Declaration) : d.render.count c = d.chars.count c := by
  have hcode : ('[' :: d.code.toList ++ [']']).count c = d.code.toList.count c := by
    have hopen : ['['].count c = 0 := count_of_control hc (by simp)
    have hclose : [']'].count c = 0 := count_of_control hc (by simp)
    show (['['] ++ d.code.toList ++ [']']).count c = _
    rw [List.count_append, List.count_append, hopen, hclose, Nat.zero_add, Nat.add_zero]
  have hissues : (d.issues.map Issue.render).flatten.count c =
      (d.issues.flatMap fun i => i.message.toList).count c := by
    rw [← List.flatMap_def, List.count_flatMap, List.count_flatMap]
    exact congrArg List.sum (List.map_congr_left fun i _ => i.count_render hc)
  unfold render chars
  dsimp only
  split
  · next hnone => rw [hcode, hnone, List.flatMap_nil, List.append_nil]
  · have hcomma : c ∉ [',', ' '] := not_mem_of_control hc (by simp)
    have hcolon : [':', ' '].count c = 0 := count_of_control hc (by simp)
    rw [List.count_append, List.count_append, hcode, hcolon, Text.count_joined hcomma, hissues,
      Nat.add_zero, List.count_append]

/-- A control character is printed as often as it stands in what is declared. -/
theorem count_renderAll (ds : List Declaration) :
    (renderAll ds).count c = (ds.flatMap chars).count c := by
  have hsemicolon : c ∉ [';', ' '] := not_mem_of_control hc (by simp)
  rw [renderAll, Text.count_joined hsemicolon, ← List.flatMap_def, List.count_flatMap,
    List.count_flatMap]
  exact congrArg List.sum (List.map_congr_left fun d _ => d.count_render hc)

end Declaration

end

end FixturePragmas
