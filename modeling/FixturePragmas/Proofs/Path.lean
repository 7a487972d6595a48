import FixturePragmas.Path
import Mathlib.Data.List.Basic

/-!
# Paths and their texts

A path that was read from a text is read again from the text it prints as (`ofString_toString`).
So paths that were read are the same if they print alike (`toString_injective`).
-/

namespace FixturePragmas.Path

/-- A path whose names can be read: they hold no slash, and are neither empty nor a single dot. -/
def Named (p : Path) : Prop := ∀ n ∈ p.names, '/' ∉ n.toList ∧ isName n.toList = true

theorem slash_not_mem_of_mem_splitOn {cs piece : List Char} (h : piece ∈ cs.splitOn '/') :
    '/' ∉ piece := by
  induction cs generalizing piece with
  | nil =>
    rw [List.splitOn_nil, List.mem_singleton] at h
    rw [h]
    exact List.not_mem_nil
  | cons c cs ih =>
    rw [List.splitOn_cons_eq_if_modifyHead] at h
    split at h
    · rcases List.mem_cons.mp h with rfl | h
      · exact List.not_mem_nil
      · exact ih h
    · next hc =>
      obtain ⟨first, others, hsplit⟩ := List.exists_cons_of_ne_nil (List.splitOn_ne_nil '/' cs)
      rw [hsplit, List.modifyHead_cons] at h
      rcases List.mem_cons.mp h with rfl | h
      · have hfirst : '/' ∉ first := ih (hsplit ▸ List.mem_cons_self)
        rw [List.mem_cons, not_or]
        exact ⟨fun heq => hc (by simp [← heq]), hfirst⟩
      · exact ih (hsplit ▸ List.mem_cons_of_mem first h)

theorem named_ofString (s : String) : (ofString s).Named := by
  intro n hn
  obtain ⟨piece, hpiece, rfl⟩ := List.mem_map.mp hn
  rw [String.toList_ofList]
  obtain ⟨hmem, hname⟩ := List.mem_filter.mp hpiece
  exact ⟨slash_not_mem_of_mem_splitOn hmem, hname⟩

/-- Names with slashes between them are split at the slashes. -/
theorem names_ofString_intercalate {ns : List String} (hne : ns ≠ [])
    (h : ∀ n ∈ ns, '/' ∉ n.toList ∧ isName n.toList = true) :
    ((("/".intercalate ns).toList.splitOn '/').filter isName).map String.ofList = ns := by
  have hsplit : ("/".intercalate ns).toList.splitOn '/' = ns.map String.toList := by
    rw [String.toList_intercalate]
    refine List.splitOn_intercalate '/' (fun piece hpiece => ?_) (by simpa using hne)
    obtain ⟨n, hn, rfl⟩ := List.mem_map.mp hpiece
    exact (h n hn).1
  have hnames : (ns.map String.toList).filter isName = ns.map String.toList := by
    refine List.filter_eq_self.mpr fun piece hpiece => ?_
    obtain ⟨n, hn, rfl⟩ := List.mem_map.mp hpiece
    exact (h n hn).2
  rw [hsplit, hnames, List.map_map]
  exact (List.map_congr_left fun n _ => String.ofList_toList).trans (List.map_id ns)

/-- Names with slashes between them do not start with a slash. -/
theorem exists_intercalate_eq_cons {n : String} (ns : List String)
    (h : '/' ∉ n.toList ∧ isName n.toList = true) :
    ∃ c cs, c ≠ '/' ∧ ("/".intercalate (n :: ns)).toList = c :: cs := by
  have hne : n.toList ≠ [] := (of_decide_eq_true h.2).1
  obtain ⟨c, cs, hcs⟩ := List.exists_cons_of_ne_nil hne
  have hc : c ≠ '/' := by
    rintro rfl
    exact h.1 (hcs ▸ List.mem_cons_self)
  rw [String.toList_intercalate, List.map_cons, hcs]
  cases ns with
  | nil => exact ⟨c, cs, hc, by simp [List.intercalate]⟩
  | cons n' ns => exact ⟨c, _, hc, rfl⟩

theorem ofString_toString {p : Path} (h : p.Named) : ofString p.toString = p := by
  obtain ⟨root, ns⟩ := p
  cases ns with
  | nil => cases root <;> decide
  | cons n ns =>
    obtain ⟨c, cs, hc, hbody⟩ := exists_intercalate_eq_cons ns (h n List.mem_cons_self)
    have hnames := names_ofString_intercalate (List.cons_ne_nil n ns) h
    rw [hbody] at hnames
    have htext : (toString ⟨root, n :: ns⟩).toList = root.text.toList ++ c :: cs := by
      rw [toString, if_neg fun hnone => List.cons_ne_nil n ns hnone.2, String.toList_append,
        hbody]
    -- each slash in front makes an empty piece, which is no name
    have hslash (ds : List Char) :
        (('/' :: ds).splitOn '/').filter isName = (ds.splitOn '/').filter isName := by
      rw [List.splitOn_cons_eq_if_modifyHead, if_pos (by decide)]
      exact List.filter_cons_of_neg (by decide)
    unfold ofString
    rw [htext]
    congr 1
    · cases root <;> simp [Root.text, rootOf, hc]
    · refine Eq.trans ?_ hnames
      cases root with
      | relative => rfl
      | single => exact congrArg _ (hslash (c :: cs))
      | double => exact congrArg _ ((hslash ('/' :: c :: cs)).trans (hslash (c :: cs)))

/-- Of a text with slashes, the part behind the last one is the name of the path. -/
theorem name_ofString_append {dir name : String} (hslash : '/' ∉ name.toList)
    (hname : isName name.toList = true) : (ofString (dir ++ "/" ++ name)).name = name := by
  have hsplit : (dir ++ "/" ++ name).toList.splitOn '/' =
      dir.toList.splitOn '/' ++ [name.toList] := by
    rw [String.toList_append, String.toList_append, List.append_assoc]
    show (dir.toList ++ '/' :: name.toList).splitOn '/' = _
    rw [List.splitOn_append_cons_self, List.splitOn_eq_singleton hslash]
  have hlast : [name.toList].filter isName = [name.toList] := List.filter_cons_of_pos hname
  rw [Path.name, ofString, hsplit, List.filter_append, hlast, List.map_append, List.map_singleton,
    List.getLast?_concat, Option.getD_some, String.ofList_toList]

/-- A text without slashes is the name of its path. -/
theorem name_ofString {name : String} (hslash : '/' ∉ name.toList)
    (hname : isName name.toList = true) : (ofString name).name = name := by
  have hlast : [name.toList].filter isName = [name.toList] := List.filter_cons_of_pos hname
  rw [Path.name, ofString, List.splitOn_eq_singleton hslash, hlast, List.map_singleton,
    List.getLast?_singleton, Option.getD_some, String.ofList_toList]

/-- Only the part of a text behind its last slash, if it has one, counts for the name of the path. -/
theorem exists_name_ofString_append {e : String} (hslash : '/' ∉ e.toList) (hlength : 2 ≤ e.length)
    (s : String) : ∃ stem, (ofString (s ++ e)).name = stem ++ e := by
  have hname (stem : List Char) : isName (String.ofList stem ++ e).toList = true := by
    have hle : e.length ≤ (String.ofList stem ++ e).toList.length := by
      rw [String.length_toList, String.length_append]
      exact Nat.le_add_left ..
    refine decide_eq_true ⟨fun h => ?_, fun h => ?_⟩
    all_goals
      rw [h] at hle
      exact absurd (Nat.le_trans hlength hle) (by decide)
  have hplain {stem : List Char} (hstem : '/' ∉ stem) :
      '/' ∉ (String.ofList stem ++ e).toList := by
    rw [String.toList_append, String.toList_ofList, List.mem_append, not_or]
    exact ⟨hstem, hslash⟩
  -- only what stands behind the last slash of `s` becomes a part of the name
  by_cases hs : '/' ∈ s.toList
  · obtain ⟨stem, dir, hsplit, hstem⟩ := List.eq_append_cons_of_mem (List.mem_reverse.mpr hs)
    have hstem' : '/' ∉ stem.reverse := fun h => hstem (List.mem_reverse.mp h)
    have hs' : s = String.ofList dir.reverse ++ "/" ++ String.ofList stem.reverse := by
      rw [← String.toList_inj, ← List.reverse_reverse s.toList, hsplit]
      simp
    refine ⟨String.ofList stem.reverse, ?_⟩
    rw [hs', String.append_assoc]
    exact name_ofString_append (hplain hstem') (hname _)
  · refine ⟨s, ?_⟩
    have hs' : s = String.ofList s.toList := String.ofList_toList.symm
    rw [hs']
    exact name_ofString (hplain hs) (hname _)

/-- Paths that were read are the same if they print alike. -/
theorem toString_injective {p q : Path} (hp : p.Named) (hq : q.Named)
    (h : p.toString = q.toString) : p = q := by
  rw [← ofString_toString hp, h, ofString_toString hq]

end FixturePragmas.Path
