import FixturePragmas.Proofs.Line

/-!
# Where the opener of a line stands

The two searches of a classification, said without them: the first opener in the list that starts
the trimmed line, and the first that occurs in the line at all (`Line.classify_cases`). A line with
an opener is what stands before the opener, the opener, and the comment. If no opener begins with
white space, what stands before it tells the two kinds of comment apart: it is white space exactly
if the whole line is a comment (`Line.classify_place`).
-/

namespace FixturePragmas.Line

/-- The line, apart from its indentation, starts with the opener. Empty openers do not count. -/
def Starts (cs : List Char) (opener : String) : Prop :=
  opener ≠ "" ∧ opener.toList <+: Text.trimStart cs

/-- The opener occurs somewhere in the line. Empty openers do not count. -/
def Occurs (cs : List Char) (opener : String) : Prop := opener ≠ "" ∧ opener.toList <:+: cs

instance (cs : List Char) (opener : String) : Decidable (Starts cs opener) :=
  inferInstanceAs (Decidable (_ ∧ _))

instance (cs : List Char) (opener : String) : Decidable (Occurs cs opener) :=
  inferInstanceAs (Decidable (_ ∧ _))

/-- What stands at the start of a trimmed line occurs in the line. -/
theorem Starts.occurs {cs : List Char} {opener : String} (h : Starts cs opener) :
    Occurs cs opener :=
  ⟨h.1, h.2.isInfix.trans (List.dropWhile_suffix Text.isBlank).isInfix⟩

/-! ### The two searches -/

theorem isSome_afterStart?_iff {opener cs : List Char} :
    (afterStart? opener cs).isSome = true ↔ opener <+: cs := by
  rw [Option.isSome_iff_exists]
  constructor
  · rintro ⟨rest, h⟩
    exact ⟨rest, (afterStart?_eq_some_iff.mp h).symm⟩
  · rintro ⟨rest, h⟩
    exact ⟨rest, afterStart?_eq_some_iff.mpr h.symm⟩

/-- An opener is found where it first occurs. -/
theorem exists_of_afterFirst?_eq_some {opener cs rest : List Char}
    (h : afterFirst? opener cs = some rest) :
    ∃ before, cs = before ++ (opener ++ rest) ∧
      ∀ k < before.length, ¬ opener <+: cs.drop k := by
  induction cs with
  | nil =>
    rw [afterFirst?, afterStart?_eq_some_iff] at h
    exact ⟨[], h, fun k hk => absurd hk (Nat.not_lt_zero k)⟩
  | cons c cs ih =>
    rw [afterFirst?] at h
    split at h
    · next rest' hstart =>
      obtain rfl := Option.some.inj h
      rw [afterStart?_eq_some_iff] at hstart
      exact ⟨[], hstart, fun k hk => absurd hk (Nat.not_lt_zero k)⟩
    · next hstart =>
      obtain ⟨before, hcs, hfirst⟩ := ih h
      refine ⟨c :: before, by rw [hcs, List.cons_append], fun k hk => ?_⟩
      cases k with
      | zero =>
        intro hprefix
        rw [List.drop_zero, ← isSome_afterStart?_iff, hstart] at hprefix
        cases hprefix
      | succ k => exact hfirst k (by simpa using hk)

/-- An opener that occurs in a text is found. -/
theorem isSome_afterFirst?_iff {opener cs : List Char} :
    (afterFirst? opener cs).isSome = true ↔ opener <:+: cs := by
  constructor
  · intro h
    obtain ⟨rest, hrest⟩ := Option.isSome_iff_exists.mp h
    obtain ⟨before, hcs⟩ := afterFirst?_sound hrest
    exact ⟨before, rest, hcs.symm⟩
  · intro h
    induction cs with
    | nil => exact isSome_afterStart?_iff.mpr (List.infix_nil.mp h ▸ List.prefix_rfl)
    | cons c cs ih =>
      rw [afterFirst?]
      split
      · rfl
      · next hstart =>
        rcases List.infix_cons_iff.mp h with hprefix | hinfix
        · rw [← isSome_afterStart?_iff, hstart] at hprefix
          cases hprefix
        · exact ih hinfix

/-- A search finds the first opener that it can find, and the text behind it. -/
theorem find?_eq_some_iff {after? : List Char → Option (List Char)} {openers : List String}
    {o : String} {text : List Char} :
    find? after? openers = some (o, text) ↔
      openers.find? (fun o => (after? o.toList).isSome) = some o ∧
        after? o.toList = some text := by
  induction openers with
  | nil => exact ⟨nofun, nofun⟩
  | cons a openers ih =>
    rw [find?, List.findSome?_cons]
    cases ha : after? a.toList with
    | none =>
      rw [List.find?_cons_of_neg (by rw [ha]; decide)]
      exact ih
    | some rest =>
      rw [List.find?_cons_of_pos (by rw [ha]; rfl)]
      constructor
      · intro h
        cases h
        exact ⟨rfl, ha⟩
      · rintro ⟨ho, htext⟩
        obtain rfl := Option.some.inj ho
        rw [ha] at htext
        rw [Option.some.inj htext]
        rfl

theorem find?_isSome_eq_none {after? : List Char → Option (List Char)} {openers : List String}
    (h : find? after? openers = none) :
    openers.find? (fun o => (after? o.toList).isSome) = none := by
  rw [List.find?_eq_none]
  intro o ho
  rw [find?_eq_none_iff.mp h o ho]
  exact Bool.false_ne_true

/-! ### The three outcomes -/

/-- Which openers count, and which of them a search can find. -/
theorem find?_active (after? : List Char → Option (List Char)) {P : String → Prop}
    [DecidablePred P] (h : ∀ o, P o ↔ o ≠ "" ∧ (after? o.toList).isSome = true)
    (openers : List String) :
    (openers.filter (· ≠ "")).find? (fun o => (after? o.toList).isSome) =
      openers.find? fun o => P o := by
  rw [List.find?_filter]
  refine congrArg (openers.find? ·) (funext fun o => ?_)
  rw [Bool.eq_iff_iff, decide_eq_true_eq, decide_eq_true_eq, decide_eq_true_eq, h]

/-- The ways in which a line is classified: by the first opener that starts the trimmed line; if
there is none, by the first that occurs in the line; if there is none of these either, as code. -/
theorem classify_cases (openers : List String) (cs : List Char) :
    (∃ o text, classify openers cs = .commentOnly o text ∧
        openers.find? (fun o => Starts cs o) = some o ∧
        Text.trimStart cs = o.toList ++ text) ∨
      (∃ o text, classify openers cs = .codeWithComment o text ∧
        openers.find? (fun o => Starts cs o) = none ∧
        openers.find? (fun o => Occurs cs o) = some o ∧
        afterFirst? o.toList cs = some text) ∨
      (classify openers cs = .code ∧ openers.find? (fun o => Starts cs o) = none ∧
        openers.find? (fun o => Occurs cs o) = none) := by
  have hstarts : ∀ o, Starts cs o ↔
      o ≠ "" ∧ (afterStart? o.toList (Text.trimStart cs)).isSome = true := fun o => by
    rw [isSome_afterStart?_iff]
    rfl
  have hoccurs : ∀ o, Occurs cs o ↔ o ≠ "" ∧ (afterFirst? o.toList cs).isSome = true := fun o => by
    rw [isSome_afterFirst?_iff]
    rfl
  unfold classify
  dsimp only
  -- both searches go over the openers that count, so they find the first that starts or occurs
  rw [← find?_active (afterStart? · (Text.trimStart cs)) hstarts,
    ← find?_active (afterFirst? · cs) hoccurs]
  split
  · next o text h =>
    obtain ⟨hfirst, htext⟩ := find?_eq_some_iff.mp h
    exact .inl ⟨o, text, rfl, hfirst, afterStart?_eq_some_iff.mp htext⟩
  · next hstart =>
    split
    · next o text h =>
      obtain ⟨hfirst, htext⟩ := find?_eq_some_iff.mp h
      exact .inr (.inl ⟨o, text, rfl, find?_isSome_eq_none hstart, hfirst, htext⟩)
    · next hfirst => exact .inr (.inr ⟨rfl, find?_isSome_eq_none hstart, find?_isSome_eq_none hfirst⟩)

/-! ### What stands before an opener -/

/-- Behind white space alone, an opener that begins with none starts the trimmed line. -/
theorem starts_of_blank {before rest : List Char} {o : String} (hne : o ≠ "")
    (hvisible : ∀ c ∈ o.toList.head?, Text.isBlank c = false) (hblank : Text.Blank before) :
    Starts (before ++ (o.toList ++ rest)) o := by
  refine ⟨hne, rest, ?_⟩
  rw [Text.trimStart_blank_append hblank]
  refine (Text.trimStart_eq_self fun c hc => hvisible c ?_).symm
  have hne' : o.toList ≠ [] := fun h => hne (String.toList_eq_nil_iff.mp h)
  rwa [List.head?_append, Option.or_of_isSome (by simpa using hne')] at hc

/-- A line is plain code exactly if no opener occurs in it. Else it is what stands before the opener
that is found, this opener, and the comment. The line is a comment as a whole exactly if white space
alone stands before the opener, and then this is the first opener in the list that starts the
trimmed line. In a line of code with a comment there is more than white space before the opener,
which is the first in the list that occurs in the line, and does not occur in it any earlier. -/
theorem classify_place {openers : List String}
    (hvisible : ∀ o ∈ openers, ∀ c ∈ o.toList.head?, Text.isBlank c = false) (cs : List Char) :
    ((classify openers cs).kind = .code ↔ ∀ o ∈ openers, ¬ Occurs cs o) ∧
      ((classify openers cs).kind = .code →
        (classify openers cs).comment = [] ∧ (classify openers cs).opener? = none) ∧
      ((classify openers cs).kind ≠ .code →
        ∃ o before, (classify openers cs).opener? = some o ∧
          cs = before ++ (o.toList ++ (classify openers cs).comment) ∧
          ((classify openers cs).kind = .commentOnly ↔ Text.Blank before) ∧
          ((classify openers cs).kind = .commentOnly →
            openers.find? (fun o => Starts cs o) = some o) ∧
          ((classify openers cs).kind = .codeWithComment →
            (∃ c ∈ before, Text.isBlank c = false) ∧
              openers.find? (fun o => Occurs cs o) = some o ∧
              ∀ k < before.length, ¬ o.toList <+: cs.drop k)) := by
  obtain ⟨o, text, hline, hstart, htrim⟩ | ⟨o, text, hline, hnone, hoccurs, htext⟩ |
    ⟨hline, -, hnone⟩ := classify_cases openers cs
  · have hstarts : Starts cs o := by simpa using List.find?_some hstart
    have hmem := List.mem_of_find?_eq_some hstart
    rw [hline]
    refine ⟨⟨nofun, fun h => absurd hstarts.occurs (h o hmem)⟩, nofun, fun _ => ?_⟩
    have hindent : Text.Blank (cs.takeWhile Text.isBlank) := fun c hc => List.mem_takeWhile_imp hc
    refine ⟨o, cs.takeWhile Text.isBlank, rfl, ?_, ⟨fun _ => hindent, fun _ => rfl⟩,
      fun _ => hstart, nofun⟩
    show cs = _ ++ (o.toList ++ text)
    rw [← htrim]
    exact List.takeWhile_append_dropWhile.symm
  · have hocc : Occurs cs o := by simpa using List.find?_some hoccurs
    have hmem := List.mem_of_find?_eq_some hoccurs
    obtain ⟨before, hcs, hfirst⟩ := exists_of_afterFirst?_eq_some htext
    -- else the opener would start the trimmed line
    have hcode : ¬ Text.Blank before := by
      intro hblank
      have hstarts : Starts cs o := hcs ▸ starts_of_blank hocc.1 (hvisible o hmem) hblank
      exact List.find?_eq_none.mp hnone o hmem (decide_eq_true hstarts)
    rw [hline]
    refine ⟨⟨nofun, fun h => absurd hocc (h o hmem)⟩, nofun, fun _ => ?_⟩
    refine ⟨o, before, rfl, hcs, ⟨nofun, fun hblank => absurd hblank hcode⟩, nofun,
      fun _ => ⟨?_, hoccurs, hfirst⟩⟩
    by_contra hall
    exact hcode fun c hc => by
      by_contra hc'
      exact hall ⟨c, hc, by simpa using hc'⟩
  · rw [hline]
    refine ⟨⟨fun _ o ho hocc => ?_, fun _ => rfl⟩, fun _ => ⟨rfl, rfl⟩, fun h => absurd rfl h⟩
    exact List.find?_eq_none.mp hnone o ho (decide_eq_true hocc)

/-- Two openers in one line: the one that is first in the list is found, not the one that stands
first. -/
theorem classify_place_twoOpeners :
    (∀ o ∈ ["", "//", "<!--"], ∀ c ∈ o.toList.head?, Text.isBlank c = false) ∧
      (classify ["", "//", "<!--"] "x <!-- // [A]".toList).kind = .codeWithComment ∧
      ∃ o before, (classify ["", "//", "<!--"] "x <!-- // [A]".toList).opener? = some o ∧
        "x <!-- // [A]".toList = before ++ (o.toList ++ " [A]".toList) ∧
        ∃ c ∈ before, Text.isBlank c = false := by
  have hvisible : ∀ o ∈ ["", "//", "<!--"], ∀ c ∈ o.toList.head?, Text.isBlank c = false := by
    intro o ho c hc
    simp only [List.mem_cons, List.not_mem_nil, or_false] at ho
    rcases ho with rfl | rfl | rfl
    · exact absurd hc (Option.not_mem_none c)
    · rw [← Option.some.inj hc]
      rfl
    · rw [← Option.some.inj hc]
      rfl
  have hkind : (classify ["", "//", "<!--"] "x <!-- // [A]".toList).kind = .codeWithComment := by
    decide
  have hcomment : (classify ["", "//", "<!--"] "x <!-- // [A]".toList).comment = " [A]".toList := by
    decide
  obtain ⟨-, -, hplace⟩ := classify_place hvisible "x <!-- // [A]".toList
  obtain ⟨o, before, hopener, hcs, -, -, hcode⟩ := hplace (by rw [hkind]; decide)
  rw [hcomment] at hcs
  exact ⟨hvisible, hkind, o, before, hopener, hcs, (hcode hkind).1⟩

end FixturePragmas.Line
