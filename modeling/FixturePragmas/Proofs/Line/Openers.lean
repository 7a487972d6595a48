import FixturePragmas.Proofs.Line.Place
import FixturePragmas.Scan

/-!
# What a change of the openers can do

The kind of a line depends on which openers there are, and not on their order: a line is a comment
as a whole if some opener starts it, and plain code if none occurs in it
(`Line.kind_eq_commentOnly_iff`, `Line.kind_eq_code_iff`). So further openers can only make more of a
line a comment. The order decides which of several openers is found. An opener that starts with an
earlier one is never found, because the earlier one is found wherever it stands
(`Line.classify_append_cons`).
-/

namespace FixturePragmas

/-! ### The order of the kinds -/

namespace LineKind

/-- How much of a line is a comment: nothing of it, its end, or all. -/
def extent : LineKind → Nat
  | .code => 0
  | .codeWithComment => 1
  | .commentOnly => 2

instance : LE LineKind := ⟨fun k k' => k.extent ≤ k'.extent⟩

theorem extent_injective {k k' : LineKind} (h : k.extent = k'.extent) : k = k' := by
  cases k <;> cases k' <;> first | rfl | cases h

theorem le_antisymm {k k' : LineKind} (h : k ≤ k') (h' : k' ≤ k) : k = k' :=
  extent_injective (Nat.le_antisymm h h')

/-- A kind that is no comment as a whole is below every kind that is not plain code. -/
theorem le_of_ne {k k' : LineKind} (h : k ≠ .commentOnly) (h' : k' ≠ .code) : k ≤ k' := by
  have hk : k.extent ≤ 1 := by
    cases k with
    | commentOnly => exact absurd rfl h
    | code => exact Nat.zero_le 1
    | codeWithComment => exact Nat.le_refl 1
  have hk' : 1 ≤ k'.extent := by
    cases k' with
    | code => exact absurd rfl h'
    | codeWithComment => exact Nat.le_refl 1
    | commentOnly => exact Nat.le_succ 1
  exact Nat.le_trans hk hk'

end LineKind

namespace Line

/-! ### Which openers there are -/

variable {openers : List String} {cs : List Char}

theorem kind_eq_commentOnly_iff :
    (classify openers cs).kind = .commentOnly ↔ ∃ o ∈ openers, Starts cs o := by
  have hnot (hnone : openers.find? (fun o => Starts cs o) = none) : ¬ ∃ o ∈ openers, Starts cs o :=
    fun ⟨o, ho, hstarts⟩ => List.find?_eq_none.mp hnone o ho (decide_eq_true hstarts)
  obtain ⟨o, text, hline, hstart, -⟩ | ⟨o, text, hline, hnone, -⟩ | ⟨hline, hnone, -⟩ :=
    classify_cases openers cs
  · rw [hline]
    have hstarts : Starts cs o := by simpa using List.find?_some hstart
    exact ⟨fun _ => ⟨o, List.mem_of_find?_eq_some hstart, hstarts⟩, fun _ => rfl⟩
  · rw [hline]
    exact ⟨nofun, fun h => absurd h (hnot hnone)⟩
  · rw [hline]
    exact ⟨nofun, fun h => absurd h (hnot hnone)⟩

theorem kind_eq_code_iff :
    (classify openers cs).kind = .code ↔ ∀ o ∈ openers, ¬ Occurs cs o := by
  obtain ⟨o, text, hline, hstart, -⟩ | ⟨o, text, hline, -, hoccurs, -⟩ | ⟨hline, -, hnone⟩ :=
    classify_cases openers cs
  · rw [hline]
    have hstarts : Starts cs o := by simpa using List.find?_some hstart
    exact ⟨nofun, fun h => absurd hstarts.occurs (h o (List.mem_of_find?_eq_some hstart))⟩
  · rw [hline]
    have hocc : Occurs cs o := by simpa using List.find?_some hoccurs
    exact ⟨nofun, fun h => absurd hocc (h o (List.mem_of_find?_eq_some hoccurs))⟩
  · rw [hline]
    refine ⟨fun _ o ho hocc => ?_, fun _ => rfl⟩
    exact List.find?_eq_none.mp hnone o ho (decide_eq_true hocc)

/-- With further openers, no less of a line is a comment. -/
theorem kind_le_of_subset {openers' : List String} (h : ∀ o ∈ openers, o ≠ "" → o ∈ openers')
    (cs : List Char) : (classify openers cs).kind ≤ (classify openers' cs).kind := by
  by_cases hcomment : (classify openers cs).kind = .commentOnly
  · obtain ⟨o, ho, hstarts⟩ := kind_eq_commentOnly_iff.mp hcomment
    have hcomment' : (classify openers' cs).kind = .commentOnly :=
      kind_eq_commentOnly_iff.mpr ⟨o, h o ho hstarts.1, hstarts⟩
    rw [hcomment, hcomment']
    exact Nat.le_refl _
  · -- at most the end of the line is a comment, so only plain code could be less
    by_cases hcode' : (classify openers' cs).kind = .code
    · have hcode : (classify openers cs).kind = .code :=
        kind_eq_code_iff.mpr fun o ho hocc =>
          kind_eq_code_iff.mp hcode' o (h o ho hocc.1) hocc
      rw [hcode, hcode']
      exact Nat.le_refl _
    · exact LineKind.le_of_ne hcomment hcode'

/-! ### Openers that are never found -/

variable {above below : List String} {o p : String}

/-- A search passes over an opener that can be found only where an earlier one is. -/
theorem find?_append_cons {after? : List Char → Option (List Char)} (hp : p ∈ above)
    (h : after? p.toList = none → after? o.toList = none) :
    find? after? (above ++ o :: below) = find? after? (above ++ below) := by
  unfold find?
  rw [List.findSome?_append, List.findSome?_append]
  cases habove : above.findSome? fun o => (after? o.toList).map (o, ·) with
  | some found => rfl
  | none =>
    -- nothing above `o` is found, and `p` is one of them
    have hnone : after? p.toList = none :=
      Option.map_eq_none_iff.mp (List.findSome?_eq_none_iff.mp habove p hp)
    rw [List.findSome?_cons, h hnone]
    rfl

theorem afterStart?_eq_none_of_starts {opener opener' : List Char} (hpre : opener <+: opener')
    (h : afterStart? opener cs = none) : afterStart? opener' cs = none := by
  rw [← Option.not_isSome_iff_eq_none, isSome_afterStart?_iff] at h ⊢
  exact fun h' => h (hpre.trans h')

theorem afterFirst?_eq_none_of_starts {opener opener' : List Char} (hpre : opener <+: opener')
    (h : afterFirst? opener cs = none) : afterFirst? opener' cs = none := by
  rw [← Option.not_isSome_iff_eq_none, isSome_afterFirst?_iff] at h ⊢
  exact fun h' => h (hpre.isInfix.trans h')

/-- An opener that starts with an earlier one may be left out. -/
theorem classify_append_cons (hp : p ∈ above) (hne : p ≠ "") (hpre : p.toList <+: o.toList) :
    classify (above ++ o :: below) = classify (above ++ below) := by
  have hactive : p ∈ above.filter (· ≠ "") := List.mem_filter.mpr ⟨hp, decide_eq_true hne⟩
  have ho : o ≠ "" := by
    rintro rfl
    exact hne (String.toList_eq_nil_iff.mp (List.prefix_nil.mp hpre))
  have hpass : ∀ after? : List Char → Option (List Char),
      (after? p.toList = none → after? o.toList = none) →
        find? after? ((above ++ o :: below).filter (· ≠ "")) =
          find? after? ((above ++ below).filter (· ≠ "")) := by
    intro after? h
    rw [List.filter_append, List.filter_append, List.filter_cons_of_pos (by simpa using ho)]
    exact find?_append_cons hactive h
  funext cs
  unfold classify
  dsimp only
  rw [hpass (afterStart? · (Text.trimStart cs)) (afterStart?_eq_none_of_starts hpre),
    hpass (afterFirst? · cs) (afterFirst?_eq_none_of_starts hpre)]

/-- The kind of a line depends on nothing but the set of the openers that are not empty, and grows
with it. An opener that starts with an earlier one which is not empty makes no difference at all,
neither to a line nor to a scan. -/
theorem classify_of_changed_openers :
    (∀ (openers openers' : List String) (cs : List Char),
        (∀ o, o ≠ "" → (o ∈ openers ↔ o ∈ openers')) →
        (classify openers cs).kind = (classify openers' cs).kind) ∧
      (∀ (openers openers' : List String) (cs : List Char),
        (∀ o ∈ openers, o ≠ "" → o ∈ openers') →
        (classify openers cs).kind ≤ (classify openers' cs).kind) ∧
      ∀ (above below : List String) (p o : String), p ∈ above → p ≠ "" → p.toList <+: o.toList →
        (∀ cs, classify (above ++ o :: below) cs = classify (above ++ below) cs) ∧
          ∀ content, scan (above ++ o :: below) content = scan (above ++ below) content := by
  refine ⟨fun openers openers' cs h => ?_, fun openers openers' cs h => kind_le_of_subset h cs,
    fun above below p o hp hne hpre => ?_⟩
  · exact LineKind.le_antisymm (kind_le_of_subset (fun o ho hne => (h o hne).mp ho) cs)
      (kind_le_of_subset (fun o ho hne => (h o hne).mpr ho) cs)
  · have hclassify : classify (above ++ o :: below) = classify (above ++ below) :=
      classify_append_cons hp hne hpre
    refine ⟨fun cs => by rw [hclassify], fun content => ?_⟩
    unfold scan ReadLine.ofText ReadLine.ofLine
    rw [hclassify]

/-- The same openers in another order, repeated and with an empty one between them; a further opener;
and an opener behind one that it starts with. -/
theorem classify_of_changed_openers_slashes :
    (∀ o, o ≠ "" → (o ∈ ["//", "#"] ↔ o ∈ ["#", "", "//", "#"])) ∧
      (classify ["//", "#"] "x # // [A]".toList).kind =
        (classify ["#", "", "//", "#"] "x # // [A]".toList).kind ∧
      (∀ o ∈ ["//", ""], o ≠ "" → o ∈ ["x", "//"]) ∧
      (classify ["//", ""] "x # // [A]".toList).kind ≤
        (classify ["x", "//"] "x # // [A]".toList).kind ∧
      "//".toList <+: "///".toList ∧
      classify (["#", "//"] ++ "///" :: ["--"]) "x /// [A]".toList =
        classify (["#", "//"] ++ ["--"]) "x /// [A]".toList ∧
      scan (["#", "//"] ++ "///" :: ["--"]) "x /// [A]".toList =
        scan (["#", "//"] ++ ["--"]) "x /// [A]".toList := by
  have hsame : ∀ o, o ≠ "" → (o ∈ ["//", "#"] ↔ o ∈ ["#", "", "//", "#"]) := by
    intro o ho
    simp only [List.mem_cons, List.not_mem_nil, or_false, ho, false_or]
    grind
  have hmore : ∀ o ∈ ["//", ""], o ≠ "" → o ∈ ["x", "//"] := by decide
  have hpre : "//".toList <+: "///".toList := ⟨['/'], rfl⟩
  obtain ⟨hkind, hle, hdead⟩ := classify_of_changed_openers
  obtain ⟨hline, htable⟩ := hdead ["#", "//"] ["--"] "//" "///" (by decide) (by decide) hpre
  exact ⟨hsame, hkind _ _ _ hsame, hmore, hle _ _ _ hmore, hpre, hline _, htable _⟩

end Line

end FixturePragmas
