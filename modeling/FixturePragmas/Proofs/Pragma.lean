import FixturePragmas.Proofs.Scan.LookBack
import Mathlib.Data.List.DropRight

/-!
# What calls leave in a pragma

A pragma is written by calls that declare codes and calls that mark them. Whatever the calls were,
its codes stand in the order of their first declarations (`codes_after`), and under each of them are
the issues of the last declaration and whether it was marked since (`get?_after`); both are shown by
induction on the calls, the last one first.

Issues and marks may as well be kept in two maps that are written one after the other
(`Pragma.TwoMaps`). A call does to the two maps of a pragma what it does to the pragma, so they
never come apart, and a call that fails leaves both as they were. Marks may be made in any order
(`foldlM_markHit`).
-/

namespace FixturePragmas

open LookBack (lastIssues)

/-- A call that writes into a pragma. -/
inductive Pragma.Call where
  | declare (d : Declaration)
  | markHit (code : String)
  deriving DecidableEq, Repr

namespace Pragma

/-! ### Calls -/

namespace Call

/-- The declaration that a call makes, if it makes one. -/
def declaration? : Call → Option Declaration
  | declare d => some d
  | markHit _ => none

/-- Whether a call declares the code `c`. -/
def declares (c : String) : Call → Bool
  | declare d => decide (d.code = c)
  | markHit _ => false

@[simp] theorem declares_declare (c : String) (d : Declaration) :
    (declare d).declares c = decide (d.code = c) := rfl

@[simp] theorem declares_markHit (c k : String) : (markHit k).declares c = false := rfl

end Call

/-- The pragma after a call; a call that fails leaves it as it is. -/
def call (p : Pragma) : Call → Pragma
  | .declare d => p.declare d
  | .markHit code =>
    match p.markHit code with
    | .ok p' => p'
    | .error _ => p

/-- The pragma after several calls, the first of which finds it empty. -/
def after (calls : List Call) : Pragma := calls.foldl call empty

/-- What several calls declare, in their order. -/
def declaredBy (calls : List Call) : List Declaration := calls.filterMap Call.declaration?

/-- Whether `c` is marked in the calls behind the last one that declares it. -/
def markedSince (calls : List Call) (c : String) : Bool :=
  decide (.markHit c ∈ calls.rtakeWhile fun call => !call.declares c)

theorem after_concat (calls : List Call) (c : Call) :
    after (calls ++ [c]) = (after calls).call c :=
  List.foldl_concat ..

theorem declaredBy_concat_declare (calls : List Call) (d : Declaration) :
    declaredBy (calls ++ [.declare d]) = declaredBy calls ++ [d] :=
  List.filterMap_append

theorem declaredBy_concat_markHit (calls : List Call) (k : String) :
    declaredBy (calls ++ [.markHit k]) = declaredBy calls := by
  rw [declaredBy, List.filterMap_append]
  exact List.append_nil _

theorem markedSince_concat_declare (calls : List Call) (d : Declaration) (c : String) :
    markedSince (calls ++ [.declare d]) c = if d.code = c then false else markedSince calls c := by
  unfold markedSince
  rw [List.rtakeWhile_concat]
  by_cases h : d.code = c <;> simp [h]

theorem markedSince_concat_markHit (calls : List Call) (k c : String) :
    markedSince (calls ++ [.markHit k]) c = if k = c then true else markedSince calls c := by
  unfold markedSince
  rw [List.rtakeWhile_concat]
  by_cases h : k = c
  · simp [h]
  · have h' : ¬c = k := fun hc => h hc.symm
    simp [h, h']

/-! ### What is known after the calls -/

theorem markHit_of_get? {p : Pragma} {c : String} {e : Expectation}
    (h : p.expectations.get? c = some e) :
    p.markHit c = .ok ⟨p.expectations.insert c { e with hit := true }⟩ := by
  rw [markHit, h]

theorem call_markHit_of_get? {p : Pragma} {c : String} {e : Expectation}
    (h : p.expectations.get? c = some e) :
    p.call (.markHit c) = ⟨p.expectations.insert c { e with hit := true }⟩ := by
  simp only [call, markHit_of_get? h]

theorem call_markHit_of_not_mem {p : Pragma} {c : String} (h : c ∉ p.codes) :
    p.call (.markHit c) = p := by
  rw [call, (p.markHit_eq_error_iff c).mpr h]

theorem codes_call_markHit (p : Pragma) (c : String) : (p.call (.markHit c)).codes = p.codes := by
  by_cases h : c ∈ p.codes
  · obtain ⟨e, he⟩ := Dict.mem_keys_iff.mp h
    rw [call_markHit_of_get? he]
    exact (Dict.keys_insert ..).trans (if_pos h)
  · rw [call_markHit_of_not_mem h]

/-- The codes stand in the order of their first declarations. -/
theorem codes_after (calls : List Call) :
    (after calls).codes = LookBack.codes (declaredBy calls) := by
  -- the last call decides, so the induction takes it off first
  induction calls using List.reverseRecOn with
  | nil => rfl
  | append_singleton calls c ih =>
    rw [after_concat]
    cases c with
    | declare d =>
      rw [declaredBy_concat_declare, LookBack.codes_concat, ← ih]
      exact codes_declare (after calls) d
    | markHit k => rw [declaredBy_concat_markHit, codes_call_markHit, ih]

/-- Under a declared code are the issues of its last declaration, and whether it was marked since.
-/
theorem get?_after (calls : List Call) {c : String} (hc : c ∈ LookBack.codes (declaredBy calls)) :
    (after calls).expectations.get? c =
      some ⟨lastIssues (declaredBy calls) c, markedSince calls c⟩ := by
  induction calls using List.reverseRecOn with
  | nil => exact absurd hc List.not_mem_nil
  | append_singleton calls k ih =>
    rw [after_concat]
    cases k with
    | declare d =>
      rw [declaredBy_concat_declare, LookBack.codes_concat] at hc
      rw [declaredBy_concat_declare, LookBack.lastIssues_concat, markedSince_concat_declare]
      show ((after calls).expectations.insert d.code ⟨d.issues, false⟩).get? c = _
      rw [Dict.get?_insert]
      -- the declaration is for this code, or leaves it as it was before
      by_cases hd : d.code = c
      · rw [if_pos hd, if_pos hd.symm, if_pos hd]
      · have hold : c ∈ LookBack.codes (declaredBy calls) := by
          split at hc
          · exact hc
          · exact (List.mem_append.mp hc).resolve_right fun h => hd (List.mem_singleton.mp h).symm
        rw [if_neg hd, if_neg (Ne.symm hd), if_neg hd, ih hold]
    | markHit k =>
      rw [declaredBy_concat_markHit] at hc ⊢
      rw [markedSince_concat_markHit]
      have hget := ih hc
      by_cases hk : k = c
      · subst hk
        rw [call_markHit_of_get? hget, if_pos rfl]
        exact (Dict.get?_insert ..).trans (if_pos rfl)
      · rw [if_neg hk]
        -- the mark is for another code: whether it fails or not, this code keeps what it has
        by_cases hmem : k ∈ (after calls).codes
        · obtain ⟨e, he⟩ := Dict.mem_keys_iff.mp hmem
          rw [call_markHit_of_get? he]
          exact ((Dict.get?_insert ..).trans (if_neg hk)).trans hget
        · rw [call_markHit_of_not_mem hmem, hget]

/-! ### Two maps -/

/-- The issues of the declared codes. -/
def issues (p : Pragma) : Dict String (List Issue) := p.expectations.mapValues fun _ e => e.issues

/-- For each declared code, whether it is marked. -/
def hits (p : Pragma) : Dict String Bool := p.expectations.mapValues fun _ e => e.hit

/-- A pragma kept as two maps that know nothing of each other. -/
structure TwoMaps where
  issues : Dict String (List Issue)
  hits : Dict String Bool
  deriving DecidableEq

/-- The two maps of a pragma. -/
def twoMaps (p : Pragma) : TwoMaps := ⟨p.issues, p.hits⟩

namespace TwoMaps

/-- A program that writes into the maps. What it wrote before it fails stays written. -/
abbrev Action := ExceptT UnknownCode (StateM TwoMaps)

/-- Declare `d`: write its issues, then take the mark away. -/
def declare (d : Declaration) : Action Unit := do
  modify fun m => { m with issues := m.issues.insert d.code d.issues }
  modify fun m => { m with hits := m.hits.insert d.code false }

/-- Mark `code`, if it has issues. -/
def markHit (code : String) : Action Unit := do
  unless (← get).issues.contains code do
    throw ⟨code⟩
  modify fun m => { m with hits := m.hits.insert code true }

/-- The program of a call. -/
def perform : Call → Action Unit
  | .declare d => declare d
  | .markHit code => markHit code

/-- How a call ends, and the maps it leaves. -/
def run (m : TwoMaps) (c : Call) : Except UnknownCode Unit × TwoMaps := (perform c).run.run m

/-- The maps after several calls, the first of which finds them empty. -/
def after (calls : List Call) : TwoMaps := calls.foldl (fun m c => (m.run c).2) ⟨.empty, .empty⟩

/-- The codes that have issues. -/
def codes (m : TwoMaps) : List String := m.issues.keys

/-- The codes without a mark. -/
def unhitCodes (m : TwoMaps) : List String := (m.hits.toList.filter fun e => !e.2).map Prod.fst

theorem run_markHit (m : TwoMaps) (c : String) :
    m.run (.markHit c) =
      if m.issues.contains c then (.ok (), { m with hits := m.hits.insert c true })
      else (.error ⟨c⟩, m) := by
  show ((do
    unless m.issues.contains c do
      throw ⟨c⟩
    modify fun m => { m with hits := m.hits.insert c true }) : Action Unit).run.run m = _
  cases m.issues.contains c <;> rfl

end TwoMaps

theorem keys_issues (p : Pragma) : p.issues.keys = p.codes := Dict.keys_mapValues ..

theorem keys_hits (p : Pragma) : p.hits.keys = p.codes := Dict.keys_mapValues ..

theorem twoMaps_declare (p : Pragma) (d : Declaration) :
    (p.declare d).twoMaps = ⟨p.issues.insert d.code d.issues, p.hits.insert d.code false⟩ :=
  congr (congrArg TwoMaps.mk (Dict.mapValues_insert ..)) (Dict.mapValues_insert ..)

theorem twoMaps_insert_hit {p : Pragma} {c : String} {e : Expectation}
    (h : p.expectations.get? c = some e) :
    twoMaps ⟨p.expectations.insert c { e with hit := true }⟩ =
      ⟨p.issues, p.hits.insert c true⟩ := by
  -- the issues are written over with themselves
  have hissues : p.issues.get? c = some e.issues := by
    rw [issues, Dict.get?_mapValues, h, Option.map_some]
  refine congr (congrArg TwoMaps.mk ?_) (Dict.mapValues_insert ..)
  exact (Dict.mapValues_insert ..).trans (Dict.insert_eq_self hissues)

theorem TwoMaps.run_twoMaps_declare (p : Pragma) (d : Declaration) :
    p.twoMaps.run (.declare d) = (.ok (), (p.call (.declare d)).twoMaps) :=
  congrArg (Prod.mk _) (twoMaps_declare p d).symm

theorem TwoMaps.run_twoMaps_markHit (p : Pragma) (c : String) :
    p.twoMaps.run (.markHit c) =
      ((p.markHit c).map fun _ => (), (p.call (.markHit c)).twoMaps) := by
  have hcontains : p.twoMaps.issues.contains c = decide (c ∈ p.codes) := by
    rw [Dict.contains_eq]
    exact congrArg (fun ks => decide (c ∈ ks)) p.keys_issues
  rw [run_markHit, hcontains]
  by_cases h : c ∈ p.codes
  · obtain ⟨e, he⟩ := Dict.mem_keys_iff.mp h
    rw [if_pos (decide_eq_true h), call_markHit_of_get? he, markHit_of_get? he]
    exact congrArg (Prod.mk _) (twoMaps_insert_hit he).symm
  · rw [if_neg (by simpa using h), call_markHit_of_not_mem h, (p.markHit_eq_error_iff c).mpr h]
    rfl

theorem TwoMaps.after_eq (calls : List Call) :
    TwoMaps.after calls = (Pragma.after calls).twoMaps := by
  induction calls using List.reverseRecOn with
  | nil => rfl
  | append_singleton calls c ih =>
    rw [TwoMaps.after, List.foldl_concat, after_concat]
    -- the two maps before the last call are those of a pragma, and one call keeps them so
    show (TwoMaps.run (TwoMaps.after calls) c).2 = _
    rw [ih]
    cases c with
    | declare d => rw [run_twoMaps_declare]
    | markHit c => rw [run_twoMaps_markHit]

/-! ### Marks in any order -/

/-- The pragma with several codes marked as well. -/
def withHits (p : Pragma) (cs : List String) : Pragma :=
  ⟨p.expectations.mapValues fun c e => { e with hit := e.hit || decide (c ∈ cs) }⟩

theorem codes_withHits (p : Pragma) (cs : List String) : (p.withHits cs).codes = p.codes :=
  Dict.keys_mapValues ..

theorem withHits_cons (p : Pragma) (c : String) (cs : List String) :
    p.withHits (c :: cs) = (p.withHits [c]).withHits cs := by
  -- the codes are the same, and under each code the marks are put together
  refine congrArg Pragma.mk (Dict.ext_get? ?_ fun k => ?_)
  · simp only [Dict.keys_mapValues, withHits]
  · simp [withHits, Dict.get?_mapValues, Function.comp_def, Bool.or_assoc]

theorem markHit_eq_withHits {p : Pragma} {c : String} (h : c ∈ p.codes) :
    p.markHit c = .ok (p.withHits [c]) := by
  obtain ⟨e, he⟩ := Dict.mem_keys_iff.mp h
  rw [markHit_of_get? he]
  refine congrArg (fun d => Except.ok (Pragma.mk d)) (Dict.ext_get? ?_ fun k => ?_)
  · rw [Dict.keys_insert, Dict.keys_mapValues, if_pos (show c ∈ p.expectations.keys from h)]
  · rw [Dict.get?_insert, Dict.get?_mapValues]
    by_cases hk : c = k
    · subst hk
      simp [he]
    · have hk' : ¬k = c := fun hc => hk hc.symm
      simp [hk, hk']

/-- Marking declared codes one after the other marks all of them. -/
theorem foldlM_markHit {p : Pragma} {cs : List String} (h : ∀ c ∈ cs, c ∈ p.codes) :
    cs.foldlM markHit p = .ok (p.withHits cs) := by
  induction cs generalizing p with
  | nil =>
    have hsame : p.withHits [] = p := by
      refine congrArg Pragma.mk (Dict.ext_get? (Dict.keys_mapValues ..) fun k => ?_)
      simp [Dict.get?_mapValues]
    rw [hsame]
    rfl
  | cons c cs ih =>
    have hrest : ∀ c' ∈ cs, c' ∈ (p.withHits [c]).codes := fun c' hc' =>
      (codes_withHits p [c]).symm ▸ h c' (List.mem_cons_of_mem c hc')
    rw [List.foldlM_cons, markHit_eq_withHits (h c List.mem_cons_self), withHits_cons p c cs]
    exact ih hrest

theorem withHits_congr (p : Pragma) {cs cs' : List String} (h : ∀ c, c ∈ cs ↔ c ∈ cs') :
    p.withHits cs = p.withHits cs' := by
  simp only [withHits, h]

/-- Which codes are not marked is read off the marks alone. -/
theorem twoMaps_unhitCodes (p : Pragma) : p.twoMaps.unhitCodes = p.unhitCodes := by
  refine (Dict.keys_filter p.hits fun hit => !hit).trans ?_
  refine Eq.trans ?_ (Dict.keys_filter p.expectations fun e => !e.hit).symm
  rw [keys_hits]
  refine List.filter_congr fun c _ => ?_
  rw [hits, Dict.get?_mapValues, Option.any_map]

theorem unhitCodes_eq (p : Pragma) :
    p.unhitCodes = p.codes.filter fun c => decide (p.hits.get? c = some false) := by
  refine (Dict.keys_filter p.expectations fun e => !e.hit).trans (List.filter_congr fun c _ => ?_)
  rw [hits, Dict.get?_mapValues]
  cases p.expectations.get? c with
  | none => rfl
  | some e => cases h : e.hit <;> simp [h]

/-- Whatever calls were made, issues and marks have the same codes, in the order of their first
declarations; the issues of a code are those last declared, and it is marked if it was marked since.
Marking fails exactly for codes that were never declared, and then changes neither map. Marks on
declared codes lead to the same pragma in whatever order and however often they are made. -/
theorem views_after (calls : List Call) :
    let p := after calls
    let cs := LookBack.codes (declaredBy calls)
    let unhit := cs.filter fun c => decide (p.hits.get? c = some false)
    TwoMaps.after calls = p.twoMaps ∧
      (p.issues.keys = cs ∧ p.hits.keys = cs) ∧
      (∀ c ∈ cs, p.issues.get? c = some (lastIssues (declaredBy calls) c) ∧
        p.hits.get? c =
          some (decide (.markHit c ∈ calls.rtakeWhile fun call => !call.declares c))) ∧
      (∀ c, (p.markHit c = .error ⟨c⟩ ↔ c ∉ cs) ∧
        (c ∉ cs → p.twoMaps.run (.markHit c) = (.error ⟨c⟩, p.twoMaps))) ∧
      (p.codes = cs ∧ p.twoMaps.codes = cs) ∧
      (p.unhitCodes = unhit ∧ p.twoMaps.unhitCodes = unhit) ∧
      ∀ marks marks' : List String, (∀ c ∈ marks, c ∈ cs) → (∀ c, c ∈ marks ↔ c ∈ marks') →
        ∃ q, marks.foldlM markHit p = .ok q ∧ marks'.foldlM markHit p = .ok q := by
  intro p cs unhit
  have hcodes : p.codes = cs := codes_after calls
  have hissues : p.issues.keys = cs := p.keys_issues.trans hcodes
  have hhits : p.hits.keys = cs := p.keys_hits.trans hcodes
  refine ⟨TwoMaps.after_eq calls, ⟨hissues, hhits⟩, fun c hc => ?_, fun c => ⟨?_, fun hc => ?_⟩,
    ⟨hcodes, hissues⟩, ⟨?_, ?_⟩, fun marks marks' hmarks hsame => ?_⟩
  · have hget : p.expectations.get? c = _ := get?_after calls hc
    rw [issues, hits, Dict.get?_mapValues, Dict.get?_mapValues, hget]
    exact ⟨rfl, rfl⟩
  · rw [markHit_eq_error_iff, hcodes]
  · rw [← hcodes] at hc
    rw [TwoMaps.run_twoMaps_markHit, (p.markHit_eq_error_iff c).mpr hc, call_markHit_of_not_mem hc]
    rfl
  · rw [unhitCodes_eq, hcodes]
  · rw [twoMaps_unhitCodes, unhitCodes_eq, hcodes]
  · rw [← hcodes] at hmarks
    refine ⟨p.withHits marks, foldlM_markHit hmarks, ?_⟩
    rw [withHits_congr p hsame]
    exact foldlM_markHit fun c hc => hmarks c ((hsame c).mpr hc)

/-- A code declared and marked twice over, one never marked, and one never declared. -/
def remarkedCalls : List Call :=
  [.declare ⟨"C", []⟩, .declare ⟨"A", [⟨"m", 1⟩]⟩, .markHit "A", .declare ⟨"A", [⟨"n", 2⟩]⟩,
    .markHit "B", .markHit "C"]

theorem views_after_remarkedCalls :
    (∀ c ∈ ["A", "C", "A"], c ∈ LookBack.codes (declaredBy remarkedCalls)) ∧
      (after remarkedCalls).hits.entries = [("C", true), ("A", false)] ∧
      (after remarkedCalls).unhitCodes = ["A"] ∧
      ∃ q, ["A", "C", "A"].foldlM markHit (after remarkedCalls) = .ok q ∧
        ["C", "A"].foldlM markHit (after remarkedCalls) = .ok q := by
  have hmarks : ∀ c ∈ ["A", "C", "A"], c ∈ LookBack.codes (declaredBy remarkedCalls) := by
    decide +kernel
  have hsame : ∀ c : String, c ∈ ["A", "C", "A"] ↔ c ∈ ["C", "A"] := by
    intro c
    simp only [List.mem_cons, List.not_mem_nil, or_false]
    tauto
  exact ⟨hmarks, by decide +kernel, by decide +kernel,
    (views_after remarkedCalls).2.2.2.2.2.2 _ _ hmarks hsame⟩

end Pragma

end FixturePragmas
