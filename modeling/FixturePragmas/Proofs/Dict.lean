import FixturePragmas.Dict
import Mathlib.Data.List.Forall2
import Mathlib.Data.List.Induction
import Mathlib.Data.List.Nodup
import Mathlib.Logic.Function.Basic

/-!
# Dictionaries written in one go

A dictionary is its entries. Entries with distinct keys, written one after the other, are the
entries of the result (`Dict.entries_ofList`); of any others each key is kept once, in the order in
which they first come, with the value written last (`Dict.entries_ofList_eq`). A write into entries
that a function gives is an update of this function (`Dict.put_map`).

Two dictionaries with the same keys in the same order and the same values under them are one
(`Dict.ext_get?`), so what is done to a dictionary is compared through these two views. One written
over another leaves the keys that were there in their places (`Dict.keys_update`), so the result may
be written over the same dictionary again and nothing changes (`Dict.update_update`).
-/

namespace FixturePragmas.Dict

theorem ext_entries {κ ν : Type} {d d' : Dict κ ν} (h : d.entries = d'.entries) : d = d' := by
  cases d
  cases d'
  cases h
  rfl

variable {κ ν : Type} [DecidableEq κ]

/-- A write into entries that are given by a function on their keys. -/
theorem put_map (f : κ → ν) (k : κ) (v : ν) {ks : List κ} (h : ks.Nodup) :
    put k v (ks.map fun c => (c, f c)) =
      (if k ∈ ks then ks else ks ++ [k]).map fun c => (c, Function.update f k v c) := by
  induction ks with
  | nil => simp [put]
  | cons c ks ih =>
    rw [List.nodup_cons] at h
    by_cases hc : c = k
    · subst hc
      have hrest : ∀ a ∈ ks, (a, f a) = (a, Function.update f c v a) := by
        intro a ha
        rw [Function.update_of_ne (fun hac : a = c => h.1 (hac ▸ ha))]
      simp only [List.map_cons, put, if_true, List.mem_cons, true_or, Function.update_self]
      rw [List.map_congr_left hrest]
    · have hk : k ≠ c := Ne.symm hc
      simp only [List.map_cons, put, if_neg hc, List.mem_cons, hk, false_or, ih h.2]
      split
      · simp [Function.update_of_ne hc]
      · simp [Function.update_of_ne hc]

/-- A new key goes to the end. -/
theorem put_of_not_mem {k : κ} (v : ν) {es : List (κ × ν)} (h : k ∉ es.map Prod.fst) :
    put k v es = es ++ [(k, v)] := by
  induction es with
  | nil => rfl
  | cons e es ih =>
    rw [List.map_cons, List.mem_cons, not_or] at h
    rw [put, if_neg (Ne.symm h.1), ih h.2, List.cons_append]

theorem entries_foldl_insert (es : List (κ × ν)) (d : Dict κ ν)
    (h : ((d.entries ++ es).map Prod.fst).Nodup) :
    (es.foldl (fun d e => d.insert e.1 e.2) d).entries = d.entries ++ es := by
  induction es generalizing d with
  | nil => simp
  | cons e es ih =>
    have hnew : e.1 ∉ d.entries.map Prod.fst := by
      intro hmem
      rw [List.map_append, List.nodup_append] at h
      exact h.2.2 e.1 hmem e.1 (by simp) rfl
    have hput : (d.insert e.1 e.2).entries = d.entries ++ [e] := put_of_not_mem e.2 hnew
    rw [List.foldl_cons, ih (d.insert e.1 e.2) (by rw [hput]; simpa using h), hput]
    simp

/-- Writing entries with distinct keys gives these entries. -/
theorem entries_ofList {es : List (κ × ν)} (h : (es.map Prod.fst).Nodup) :
    (ofList es).entries = es :=
  entries_foldl_insert es empty h

/-! ### Any entries -/

theorem ofList_concat (es : List (κ × ν)) (e : κ × ν) :
    ofList (es ++ [e]) = (ofList es).insert e.1 e.2 := by
  rw [ofList, List.foldl_concat]
  rfl

theorem eraseDups_concat (ks : List κ) (k : κ) :
    (ks ++ [k]).eraseDups = if k ∈ ks then ks.eraseDups else ks.eraseDups ++ [k] := by
  rw [List.eraseDups_append]
  by_cases h : k ∈ ks
  · have hgone : [k].removeAll ks = [] := by simpa [List.removeAll] using h
    rw [if_pos h, hgone, List.eraseDups_nil, List.append_nil]
  · have hnew : [k].removeAll ks = [k] := by simpa [List.removeAll] using h
    have hone : [k].eraseDups = [k] := by simp [List.eraseDups_cons]
    rw [if_neg h, hnew, hone]

theorem keys_ofList (es : List (κ × ν)) : (ofList es).keys = (es.map Prod.fst).eraseDups := by
  induction es using List.reverseRecOn with
  | nil => rfl
  | append_singleton es e ih =>
    rw [ofList_concat, keys_insert, ih, List.map_append, List.map_singleton, eraseDups_concat]
    simp only [List.mem_eraseDups]

theorem get?_ofList (es : List (κ × ν)) (k : κ) :
    (ofList es).get? k = (es.reverse.find? (·.1 = k)).map Prod.snd := by
  induction es using List.reverseRecOn with
  | nil => rfl
  | append_singleton es e ih =>
    rw [ofList_concat, get?_insert, ih, List.reverse_concat, List.find?_cons]
    by_cases h : e.1 = k <;> simp [h]

theorem entries_eq_keys (d : Dict κ ν) :
    d.entries = d.keys.filterMap fun k => (d.get? k).map fun v => (k, v) := by
  have hentry : ∀ e ∈ d.entries, ((d.get? e.1).map fun v => (e.1, v)) = some e := by
    intro e he
    rw [(get?_eq_some_iff d e.1 e.2).mpr he]
    rfl
  rw [keys, List.filterMap_map]
  exact (List.filterMap_some.symm.trans (List.filterMap_congr fun e he => (hentry e he).symm))

/-- Each key comes once, in the place where it is first written, with the value written last. -/
theorem entries_ofList_eq (es : List (κ × ν)) :
    (ofList es).entries =
      (es.map Prod.fst).eraseDups.filterMap fun k =>
        (es.reverse.find? (·.1 = k)).map fun e => (k, e.2) := by
  rw [entries_eq_keys, keys_ofList]
  refine List.filterMap_congr fun k _ => ?_
  rw [get?_ofList, Option.map_map]
  rfl

/-- Entries that are related key by key are related in the dictionaries made of them. -/
theorem rel_ofList {μ : Type} {R : κ → ν → μ → Prop} {es : List (κ × ν)} {es' : List (κ × μ)}
    (h : List.Forall₂ (fun e e' => e'.1 = e.1 ∧ R e.1 e.2 e'.2) es es') (k : κ) :
    Option.Rel (R k) ((ofList es).get? k) ((ofList es').get? k) := by
  have hreverse := List.forall₂_reverse_iff.mpr h
  rw [get?_ofList, get?_ofList]
  generalize es.reverse = xs, es'.reverse = xs' at hreverse
  induction hreverse with
  | nil => exact .none
  | @cons e e' rest rest' he _ ih =>
    rw [List.find?_cons, List.find?_cons, he.1]
    by_cases hk : e.1 = k
    · simp only [hk, decide_true]
      exact .some (hk ▸ he.2)
    · simpa only [hk, decide_false] using ih

/-! ### The two views -/

/-- Keys in their order and the values under them are all there is to a dictionary. -/
theorem ext_get? {d d' : Dict κ ν} (hkeys : d.keys = d'.keys)
    (hget : ∀ k, d.get? k = d'.get? k) : d = d' := by
  refine ext_entries ?_
  rw [entries_eq_keys d, entries_eq_keys d', hkeys]
  exact List.filterMap_congr fun k _ => by rw [hget]

theorem get?_mapValues {μ : Type} (f : κ → ν → μ) (d : Dict κ ν) (k : κ) :
    (d.mapValues f).get? k = (d.get? k).map (f k) := by
  refine Option.ext fun v => ?_
  rw [get?_eq_some_iff, Option.map_eq_some_iff]
  constructor
  · intro h
    obtain ⟨e, he, heq⟩ := List.mem_map.mp h
    cases heq
    exact ⟨e.2, (get?_eq_some_iff d e.1 e.2).mpr he, rfl⟩
  · rintro ⟨w, hw, rfl⟩
    exact List.mem_map.mpr ⟨(k, w), (get?_eq_some_iff d k w).mp hw, rfl⟩

theorem mem_keys_iff {d : Dict κ ν} {k : κ} : k ∈ d.keys ↔ ∃ v, d.get? k = some v := by
  rw [← Option.ne_none_iff_exists', ne_eq, get?_eq_none_iff, not_not]

/-- Dictionaries with the same values have the same keys. -/
theorem keys_perm_of_get? {d d' : Dict κ ν} (h : ∀ k, d.get? k = d'.get? k) :
    d.keys.Perm d'.keys := by
  refine (List.perm_ext_iff_of_nodup d.nodup d'.nodup).mpr fun k => ?_
  show k ∈ d.keys ↔ k ∈ d'.keys
  rw [mem_keys_iff, mem_keys_iff, h]

theorem mapValues_insert {μ : Type} (f : κ → ν → μ) (d : Dict κ ν) (k : κ) (v : ν) :
    (d.insert k v).mapValues f = (d.mapValues f).insert k (f k v) := by
  refine ext_get? (by simp only [keys_mapValues, keys_insert]) fun k' => ?_
  simp only [get?_mapValues, get?_insert]
  split
  · next h => rw [h, Option.map_some]
  · rfl

/-- Writing what is there changes nothing. -/
theorem insert_eq_self {d : Dict κ ν} {k : κ} {v : ν} (h : d.get? k = some v) :
    d.insert k v = d := by
  refine ext_get? ?_ fun k' => ?_
  · rw [keys_insert, if_pos (mem_keys_iff.mpr ⟨v, h⟩)]
  · rw [get?_insert]
    split
    · next hk => rw [← hk, h]
    · rfl

theorem contains_eq (d : Dict κ ν) (k : κ) : d.contains k = decide (k ∈ d.keys) := by
  rw [Bool.eq_iff_iff, contains, Option.isSome_iff_exists, decide_eq_true_eq, mem_keys_iff]

/-- The keys of the entries that pass a test, in their order. -/
theorem keys_filter (d : Dict κ ν) (q : ν → Bool) :
    (d.toList.filter fun e => q e.2).map Prod.fst = d.keys.filter fun k => (d.get? k).any q := by
  rw [keys, List.filter_map]
  refine congrArg (List.map Prod.fst) (List.filter_congr fun e he => ?_)
  rw [Function.comp_apply, (get?_eq_some_iff d e.1 e.2).mpr he]
  rfl

/-! ### One dictionary over another -/

theorem get?_foldl_insert (es : List (κ × ν)) (d : Dict κ ν) (k : κ) :
    (es.foldl (fun d e => d.insert e.1 e.2) d).get? k = ((ofList es).get? k).or (d.get? k) := by
  induction es using List.reverseRecOn with
  | nil => rfl
  | append_singleton es e ih =>
    rw [List.foldl_concat, ofList_concat, get?_insert, get?_insert, ih]
    split <;> rfl

/-- Writing the entries of a dictionary gives this dictionary. -/
theorem ofList_entries (d : Dict κ ν) : ofList d.entries = d :=
  ext_entries (entries_ofList d.nodup)

/-- In which order the entries of a dictionary are written makes no difference to its values. -/
theorem get?_ofList_of_perm {d : Dict κ ν} {es : List (κ × ν)} (h : es.Perm d.entries) (k : κ) :
    (ofList es).get? k = d.get? k := by
  have hnodup : (es.map Prod.fst).Nodup := (h.map Prod.fst).nodup_iff.mpr d.nodup
  refine Option.ext fun v => ?_
  rw [get?_eq_some_iff, get?_eq_some_iff, entries_ofList hnodup, h.mem_iff]

@[simp] theorem update_empty (d : Dict κ ν) : d.update empty = d := rfl

/-- What is written over a dictionary comes before what was there. -/
theorem get?_update (d d' : Dict κ ν) (k : κ) :
    (d.update d').get? k = (d'.get? k).or (d.get? k) := by
  rw [update, get?_foldl_insert, ofList_entries]

theorem keys_foldl_insert (es : List (κ × ν)) (d : Dict κ ν) (h : (es.map Prod.fst).Nodup) :
    (es.foldl (fun d e => d.insert e.1 e.2) d).keys =
      d.keys ++ (es.map Prod.fst).filter (· ∉ d.keys) := by
  induction es using List.reverseRecOn with
  | nil => exact (List.append_nil _).symm
  | append_singleton es e ih =>
    rw [List.map_append, List.map_singleton, List.nodup_append] at h
    have hnew : e.1 ∉ es.map Prod.fst := fun he => h.2.2 _ he _ (List.mem_singleton_self _) rfl
    rw [List.foldl_concat, keys_insert, ih h.1, List.map_append, List.map_singleton,
      List.filter_append]
    by_cases hold : e.1 ∈ d.keys
    · have hgone : [e.1].filter (· ∉ d.keys) = [] := by simp [hold]
      rw [if_pos (List.mem_append_left _ hold), hgone, List.append_nil]
    · have hstays : [e.1].filter (· ∉ d.keys) = [e.1] := by simp [hold]
      have hfresh : e.1 ∉ d.keys ++ (es.map Prod.fst).filter (· ∉ d.keys) := by
        rw [List.mem_append, List.mem_filter, not_or, not_and_or]
        exact ⟨hold, .inl hnew⟩
      rw [if_neg hfresh, hstays, List.append_assoc]

/-- The keys that were there stay in their places, and new ones follow in their order. -/
theorem keys_update (d d' : Dict κ ν) :
    (d.update d').keys = d.keys ++ d'.keys.filter (· ∉ d.keys) :=
  keys_foldl_insert d'.entries d d'.nodup

/-- One dictionary over another: what was there is replaced in its place, the rest follows. -/
theorem entries_update (d d' : Dict κ ν) :
    (d.update d').entries = (d.entries.map fun e => (e.1, (d'.get? e.1).getD e.2)) ++
      d'.entries.filter fun e => e.1 ∉ d.keys := by
  have hnew : d'.keys.filter (· ∉ d.keys) =
      (d'.entries.filter fun e => e.1 ∉ d.keys).map Prod.fst := List.filter_map
  rw [entries_eq_keys, keys_update, List.filterMap_append, hnew, List.filterMap_map]
  refine congrArg₂ _ ?_ ?_
  · rw [keys, List.filterMap_map, ← List.filterMap_eq_map]
    refine List.filterMap_congr fun e he => ?_
    simp only [Function.comp_apply]
    rw [get?_update, (get?_eq_some_iff d e.1 e.2).mpr he]
    cases d'.get? e.1 <;> rfl
  · refine (List.filterMap_congr fun e he => ?_).trans List.filterMap_some
    rw [Function.comp_apply, get?_update,
      (get?_eq_some_iff d' e.1 e.2).mpr (List.mem_of_mem_filter he)]
    rfl

theorem values_update_of_new {d d' : Dict κ ν} (h : ∀ k ∈ d'.keys, k ∉ d.keys) :
    (d.update d').values = d.values ++ d'.values := by
  have hnodup : ((d.entries ++ d'.entries).map Prod.fst).Nodup := by
    rw [List.map_append, List.nodup_append]
    exact ⟨d.nodup, d'.nodup, fun k hk k' hk' heq => h k' hk' (heq ▸ hk)⟩
  rw [values, update, entries_foldl_insert d'.entries d hnodup, List.map_append]
  rfl

/-- A dictionary with entries written over it may itself be written over it again. -/
theorem update_update (d d' : Dict κ ν) : d.update (d.update d') = d.update d' := by
  refine ext_get? ?_ fun k => ?_
  · rw [keys_update d (d.update d'), keys_update d d', List.filter_append, List.filter_filter]
    have hold : d.keys.filter (· ∉ d.keys) = [] := by simp
    rw [hold, List.nil_append]
    simp only [Bool.and_self]
  · rw [get?_update d (d.update d'), get?_update d d', Option.or_assoc, Option.or_self]

/-! ### In order of the keys -/

/-- Elements with distinct keys that are sorted by their keys come in strictly increasing order. -/
theorem pairwise_lt_mergeSort {α β : Type} [LE β] [LT β] [Std.IsLinearOrder β]
    [Std.LawfulOrderLT β] {key : α → β} {le : α → α → Bool}
    (hle : ∀ a b, le a b = true ↔ key a ≤ key b) {xs : List α} (h : (xs.map key).Nodup) :
    (xs.mergeSort le).Pairwise fun a b => key a < key b := by
  have hsorted : (xs.mergeSort le).Pairwise fun a b => le a b = true := by
    refine List.pairwise_mergeSort (fun a b c hab hbc => ?_) (fun a b => ?_) xs
    · rw [hle] at hab hbc ⊢
      exact Std.le_trans hab hbc
    · rw [Bool.or_eq_true, hle, hle]
      exact Std.le_total
  have hne : (xs.mergeSort le).Pairwise fun a b => key a ≠ key b :=
    List.pairwise_map.mp (((List.mergeSort_perm xs le).map key).nodup_iff.mpr h)
  refine hsorted.imp₂ (fun a b hab hab' => ?_) hne
  exact Std.lt_of_le_of_ne ((hle a b).mp hab) hab'

end FixturePragmas.Dict
