import FixturePragmas.Proofs.Declaration.Spacing
import FixturePragmas.Scan
import Mathlib.Data.List.Forall2

/-!
# White space at the ends of lines

Neither the indentation of a line nor white space at its end makes a difference to a scan, if there
is no white space in the openers. Such an opener lies within the white space of a line nowhere, nor
across its border, so a line is classified as before, and what was added at its end stands behind
its comment (`Line.classify_blank_append`), where it is not read. So lines that end in CR LF give the
table of the same lines ended by LF.
-/

namespace FixturePragmas

open Text (Blank isBlank trimStart)

/-- Two texts that differ in nothing but the white space at their ends. -/
def Text.Respaced (l l' : List Char) : Prop :=
  ∃ inside v w v' w', Blank v ∧ Blank w ∧ Blank v' ∧ Blank w' ∧
    l = v ++ (inside ++ w) ∧ l' = v' ++ (inside ++ w')

/-! ### Lines -/

namespace Line

/-- A line with `w` behind its comment, if it has one. -/
def followedBy (w : List Char) : Line → Line
  | .code => .code
  | .codeWithComment o text => .codeWithComment o (text ++ w)
  | .commentOnly o text => .commentOnly o (text ++ w)

theorem kind_followedBy (w : List Char) (l : Line) : (l.followedBy w).kind = l.kind := by
  cases l <;> rfl

theorem ofComment_followedBy {w : List Char} (hw : Blank w) (l : Line) :
    Declaration.ofComment (l.followedBy w).comment = Declaration.ofComment l.comment := by
  cases l with
  | code => rfl
  | codeWithComment o text => exact Declaration.ofComment_append_blank hw text
  | commentOnly o text => exact Declaration.ofComment_append_blank hw text

theorem afterStart?_nil {opener : List Char} (hne : opener ≠ []) : afterStart? opener [] = none := by
  obtain ⟨a, opener, rfl⟩ := List.exists_cons_of_ne_nil hne
  rfl

section Search

variable {opener : List Char} (hvisible : ∀ c ∈ opener, isBlank c = false)

include hvisible

theorem afterStart?_cons_of_blank (hne : opener ≠ []) {d : Char} (hd : isBlank d = true)
    (cs : List Char) : afterStart? opener (d :: cs) = none := by
  obtain ⟨a, opener, rfl⟩ := List.exists_cons_of_ne_nil hne
  have had : ¬ (a == d) = true := by
    intro heq
    have ha := hvisible a List.mem_cons_self
    rw [eq_of_beq heq, hd] at ha
    cases ha
  show (if (a == d) = true then afterStart? opener cs else none) = none
  rw [if_neg had]

variable {w : List Char} (hw : Blank w)

include hw

theorem afterStart?_append_blank (cs : List Char) :
    afterStart? opener (cs ++ w) = (afterStart? opener cs).map (· ++ w) := by
  induction opener generalizing cs with
  | nil => rfl
  | cons a opener ih =>
    cases cs with
    | nil =>
      cases w with
      | nil => rfl
      | cons d w =>
        exact afterStart?_cons_of_blank hvisible (List.cons_ne_nil a opener)
          (hw d List.mem_cons_self) w
    | cons c cs =>
      show (if (a == c) = true then afterStart? opener (cs ++ w) else none) =
        (if (a == c) = true then afterStart? opener cs else none).map (· ++ w)
      rw [ih (fun d hd => hvisible d (List.mem_cons_of_mem a hd))]
      split <;> rfl

variable (hne : opener ≠ [])

include hne

theorem afterStart?_trimStart_append_blank (cs : List Char) :
    afterStart? opener (trimStart (cs ++ w)) =
      (afterStart? opener (trimStart cs)).map (· ++ w) := by
  rw [Text.trimStart_append_blank hw]
  by_cases hnil : trimStart cs = []
  · rw [if_pos hnil, hnil, afterStart?_nil hne]
    rfl
  · rw [if_neg hnil]
    exact afterStart?_append_blank hvisible hw _

theorem afterFirst?_blank_append (cs : List Char) :
    afterFirst? opener (w ++ cs) = afterFirst? opener cs := by
  induction w with
  | nil => rfl
  | cons d w ih =>
    rw [List.cons_append, afterFirst?,
      afterStart?_cons_of_blank hvisible hne (hw d List.mem_cons_self)]
    exact ih fun c hc => hw c (List.mem_cons_of_mem d hc)

theorem afterFirst?_append_blank (cs : List Char) :
    afterFirst? opener (cs ++ w) = (afterFirst? opener cs).map (· ++ w) := by
  induction cs with
  | nil =>
    -- in white space alone no opener is found
    have hblank := afterFirst?_blank_append hvisible hw hne []
    have hnil : afterFirst? opener [] = none := afterStart?_nil hne
    rw [List.append_nil] at hblank
    rw [List.nil_append, hblank, hnil]
    rfl
  | cons c cs ih =>
    have hstart := afterStart?_append_blank hvisible hw (c :: cs)
    rw [List.cons_append] at hstart ⊢
    rw [afterFirst?, afterFirst?, hstart]
    cases afterStart? opener (c :: cs) with
    | none => exact ih
    | some rest => rfl

end Search

/-- Searches that agree on every opener, but for `f` on the text behind it, find the same opener. -/
theorem find?_map {after? after?' : List Char → Option (List Char)} {f : List Char → List Char}
    {openers : List String} (h : ∀ o ∈ openers, after?' o.toList = (after? o.toList).map f) :
    find? after?' openers = (find? after? openers).map fun r => (r.1, f r.2) := by
  unfold find?
  induction openers with
  | nil => rfl
  | cons o openers ih =>
    rw [List.findSome?_cons, List.findSome?_cons, h o List.mem_cons_self,
      ih fun o' ho' => h o' (List.mem_cons_of_mem o ho')]
    cases after? o.toList <;> rfl

/-- White space around a line leaves its kind and its opener as they are, and its comment too but for
what is added at the end. -/
theorem classify_blank_append {openers : List String}
    (hvisible : ∀ o ∈ openers, ∀ c ∈ o.toList, isBlank c = false) {v w : List Char}
    (hv : Blank v) (hw : Blank w) (cs : List Char) :
    classify openers (v ++ (cs ++ w)) = (classify openers cs).followedBy w := by
  let active := openers.filter (· ≠ "")
  -- white space around the line can neither hold an opener nor be a part of one
  have hactive : ∀ o ∈ active, (∀ c ∈ o.toList, isBlank c = false) ∧ o.toList ≠ [] := by
    intro o ho
    obtain ⟨hmem, hne⟩ := List.mem_filter.mp ho
    exact ⟨hvisible o hmem, fun hnil => of_decide_eq_true hne (String.toList_eq_nil_iff.mp hnil)⟩
  have hstart : find? (afterStart? · (trimStart (v ++ (cs ++ w)))) active =
      (find? (afterStart? · (trimStart cs)) active).map fun r => (r.1, r.2 ++ w) := by
    refine find?_map (f := (· ++ w)) fun o ho => ?_
    obtain ⟨hvis, hne⟩ := hactive o ho
    rw [Text.trimStart_blank_append hv]
    exact afterStart?_trimStart_append_blank hvis hw hne cs
  have hfirst : find? (afterFirst? · (v ++ (cs ++ w))) active =
      (find? (afterFirst? · cs) active).map fun r => (r.1, r.2 ++ w) := by
    refine find?_map (f := (· ++ w)) fun o ho => ?_
    obtain ⟨hvis, hne⟩ := hactive o ho
    rw [afterFirst?_blank_append hvis hv hne, afterFirst?_append_blank hvis hw hne]
  unfold classify
  dsimp only
  rw [hstart, hfirst]
  cases find? (afterStart? · (trimStart cs)) active with
  | some r => rfl
  | none => cases find? (afterFirst? · cs) active <;> rfl

end Line

/-! ### Scans -/

section Scans

variable {openers : List String} (hvisible : ∀ o ∈ openers, ∀ c ∈ o.toList, isBlank c = false)

include hvisible

theorem ReadLine.ofLine_respaced {l l' : List Char} (h : Text.Respaced l l') :
    ofLine openers l' = ofLine openers l := by
  obtain ⟨inside, v, w, v', w', hv, hw, hv', hw', rfl, rfl⟩ := h
  unfold ofLine
  rw [Line.classify_blank_append hvisible hv hw, Line.classify_blank_append hvisible hv' hw']
  dsimp only
  rw [Line.ofComment_followedBy hw, Line.ofComment_followedBy hw', Line.kind_followedBy,
    Line.kind_followedBy]

theorem scan_unlines_eq_of_respaced {ls ls' : List (List Char)} (hlines : ∀ l ∈ ls, '\n' ∉ l)
    (hlines' : ∀ l ∈ ls', '\n' ∉ l) (h : List.Forall₂ Text.Respaced ls ls') :
    scan openers (Text.unlines ls') = scan openers (Text.unlines ls) := by
  have hread : ls'.mapM (ReadLine.ofLine openers) = ls.mapM (ReadLine.ofLine openers) := by
    -- the induction is on the pairs of lines; what is known of all lines would stand in its way
    clear hlines hlines'
    induction h with
    | nil => rfl
    | cons hl _ ih => rw [List.mapM_cons, List.mapM_cons, ReadLine.ofLine_respaced hvisible hl, ih]
  rw [scan, scan, ReadLine.ofText, ReadLine.ofText, Text.lines_unlines hlines,
    Text.lines_unlines hlines', hread]

/-- White space at the ends of lines does not matter to a scan under openers without white space: it
may be replaced by any other in any of the lines, and the same table or the same failure comes out.
In particular, lines that end in CR LF are scanned as if they ended in LF. -/
theorem scan_unlines_respaced {ls ls' : List (List Char)} (hlines : ∀ l ∈ ls, '\n' ∉ l)
    (hlines' : ∀ l ∈ ls', '\n' ∉ l) (h : List.Forall₂ Text.Respaced ls ls') :
    scan openers (Text.unlines ls') = scan openers (Text.unlines ls) ∧
      scan openers (ls.flatMap (· ++ ['\r', '\n'])) = scan openers (Text.unlines ls) := by
  refine ⟨scan_unlines_eq_of_respaced hvisible hlines hlines' h, ?_⟩
  have hcr : ls.flatMap (· ++ ['\r', '\n']) = Text.unlines (ls.map (· ++ ['\r'])) := by
    simp [Text.unlines, List.flatMap_map]
  have hlone : ∀ l ∈ ls.map (· ++ ['\r']), '\n' ∉ l := by
    intro l hl
    obtain ⟨l₀, hl₀, rfl⟩ := List.mem_map.mp hl
    simp [hlines l₀ hl₀]
  have hspaced : List.Forall₂ Text.Respaced ls (ls.map (· ++ ['\r'])) := by
    refine List.forall₂_map_right_iff.mpr (List.forall₂_same.mpr fun l _ => ?_)
    refine ⟨l, [], [], [], ['\r'], Text.blank_nil, Text.blank_nil, Text.blank_nil,
      Text.blank_singleton rfl, by simp, rfl⟩
  rw [hcr]
  exact scan_unlines_eq_of_respaced hvisible hlines hlone hspaced

end Scans

/-- Other white space around a comment that ends in a comma, a line of code with an open message, and
an empty line; the line of code keeps both declarations. -/
theorem scan_unlines_respaced_mixedSpaces :
    (∀ o ∈ ["", "#"], ∀ c ∈ o.toList, isBlank c = false) ∧
      List.Forall₂ Text.Respaced
        ["  # [A]: 1 , ".toList, "x # [B]: 2 \"m".toList, [], "y".toList]
        ["\t# [A]: 1 ,\u00a0\r".toList, " x # [B]: 2 \"m  ".toList, "\u2003".toList, "y".toList] ∧
      scan ["", "#"] (Text.unlines
          ["\t# [A]: 1 ,\u00a0\r".toList, " x # [B]: 2 \"m  ".toList, "\u2003".toList, "y".toList]) =
        scan ["", "#"] (Text.unlines
          ["  # [A]: 1 , ".toList, "x # [B]: 2 \"m".toList, [], "y".toList]) ∧
      (scan ["", "#"] (Text.unlines
          ["  # [A]: 1 , ".toList, "x # [B]: 2 \"m".toList, [], "y".toList])).map
        (fun t => t.entries.map fun e => (e.1, e.2.codes)) = .ok [(2, ["A", "B"])] := by
  have hvisible : ∀ o ∈ ["", "#"], ∀ c ∈ o.toList, isBlank c = false := by
    intro o ho c hc
    obtain rfl | rfl := List.mem_pair.mp ho
    · cases (hc : c ∈ [])
    · rw [List.mem_singleton.mp (hc : c ∈ ['#'])]
      rfl
  have hspaced : List.Forall₂ Text.Respaced
      ["  # [A]: 1 , ".toList, "x # [B]: 2 \"m".toList, [], "y".toList]
      ["\t# [A]: 1 ,\u00a0\r".toList, " x # [B]: 2 \"m  ".toList, "\u2003".toList, "y".toList] := by
    have hblank (w : List Char) (h : w.all isBlank = true) : Blank w := List.all_eq_true.mp h
    refine .cons ?_ (.cons ?_ (.cons ?_ (.cons ?_ .nil)))
    · exact ⟨"# [A]: 1 ,".toList, "  ".toList, " ".toList, "\t".toList, "\u00a0\r".toList,
        hblank _ rfl, hblank _ rfl, hblank _ rfl, hblank _ rfl, rfl, rfl⟩
    · exact ⟨"x # [B]: 2 \"m".toList, [], [], " ".toList, "  ".toList,
        hblank _ rfl, hblank _ rfl, hblank _ rfl, hblank _ rfl, rfl, rfl⟩
    · exact ⟨[], [], [], "\u2003".toList, [],
        hblank _ rfl, hblank _ rfl, hblank _ rfl, hblank _ rfl, rfl, rfl⟩
    · exact ⟨"y".toList, [], [], [], [],
        hblank _ rfl, hblank _ rfl, hblank _ rfl, hblank _ rfl, rfl, rfl⟩
  exact ⟨hvisible, hspaced, (scan_unlines_respaced hvisible (by decide) (by decide) hspaced).1,
    by decide +kernel⟩

end FixturePragmas
