/-!
# Dictionaries in order of insertion

A `Dict κ ν` is a finite map that remembers in which order its keys first came. Writing a key again
changes its value and leaves it in its place; a new key goes to the end. Pragmas, tables, dialects
and settings are all such maps, and every answer lists them in this order.

`keys_insert` and `get?_insert` say what a write does to the two views, the keys and the values.
-/

namespace FixturePragmas

/-- A finite map from `κ` to `ν`: each key once, in the order of first insertion. -/
structure Dict (κ ν : Type) where
  entries : List (κ × ν)
  nodup : (entries.map Prod.fst).Nodup
  deriving DecidableEq

namespace Dict

variable {κ ν μ : Type}

/-- The dictionary without keys. -/
def empty : Dict κ ν := ⟨[], List.nodup_nil⟩

instance : Inhabited (Dict κ ν) := ⟨empty⟩

def toList (d : Dict κ ν) : List (κ × ν) := d.entries

/-- The keys in their order. -/
def keys (d : Dict κ ν) : List κ := d.entries.map Prod.fst

/-- The values in the order of their keys. -/
def values (d : Dict κ ν) : List ν := d.entries.map Prod.snd

def size (d : Dict κ ν) : Nat := d.entries.length

def isEmpty (d : Dict κ ν) : Bool := d.entries.isEmpty

/-- The dictionary with every value changed by `f`, which also sees the key. -/
def mapValues (f : κ → ν → μ) (d : Dict κ ν) : Dict κ μ where
  entries := d.entries.map fun e => (e.1, f e.1 e.2)
  nodup := by
    have h : (d.entries.map fun e => (e.1, f e.1 e.2)).map Prod.fst = d.entries.map Prod.fst := by
      simp [Function.comp_def]
    rw [h]
    exact d.nodup

@[simp] theorem keys_mapValues (f : κ → ν → μ) (d : Dict κ ν) :
    (d.mapValues f).keys = d.keys := by
  simp [keys, mapValues, Function.comp_def]

variable [DecidableEq κ]

/-! ### Writing one key -/

/-- The entries with `k` bound to `v`: in the place of `k` if it has one, else at the end. -/
def put (k : κ) (v : ν) : List (κ × ν) → List (κ × ν)
  | [] => [(k, v)]
  | e :: es => if e.1 = k then (k, v) :: es else e :: put k v es

theorem keys_put (k : κ) (v : ν) (es : List (κ × ν)) :
    (put k v es).map Prod.fst =
      if k ∈ es.map Prod.fst then es.map Prod.fst else es.map Prod.fst ++ [k] := by
  induction es with
  | nil => simp [put]
  | cons e es ih =>
    by_cases h : e.1 = k
    · simp [put, h]
    · have h' : ¬k = e.1 := fun hk => h hk.symm
      simp only [put, if_neg h, List.map_cons, ih, List.mem_cons, h', false_or]
      split <;> simp

theorem nodup_put {k : κ} {v : ν} {es : List (κ × ν)} (h : (es.map Prod.fst).Nodup) :
    ((put k v es).map Prod.fst).Nodup := by
  rw [keys_put]
  split
  · exact h
  · next hk =>
    rw [List.nodup_append]
    refine ⟨h, by simp, ?_⟩
    intro a ha b hb hab
    rw [List.mem_singleton] at hb
    exact hk (hb ▸ hab ▸ ha)

/-- The dictionary with `k` bound to `v`. -/
def insert (d : Dict κ ν) (k : κ) (v : ν) : Dict κ ν := ⟨put k v d.entries, nodup_put d.nodup⟩

/-- The value of `k`, if it is a key. -/
def get? (d : Dict κ ν) (k : κ) : Option ν := (d.entries.find? (·.1 = k)).map Prod.snd

def contains (d : Dict κ ν) (k : κ) : Bool := (d.get? k).isSome

/-- The dictionary that comes from writing `es` one after the other. -/
def ofList (es : List (κ × ν)) : Dict κ ν := es.foldl (fun d e => d.insert e.1 e.2) empty

/-- `d` with every entry of `d'` written over it. -/
def update (d d' : Dict κ ν) : Dict κ ν := d'.entries.foldl (fun a e => a.insert e.1 e.2) d

/-! ### What a write does to the views -/

theorem keys_insert (d : Dict κ ν) (k : κ) (v : ν) :
    (d.insert k v).keys = if k ∈ d.keys then d.keys else d.keys ++ [k] :=
  keys_put k v d.entries

theorem find?_put (k k' : κ) (v : ν) (es : List (κ × ν)) :
    (put k v es).find? (·.1 = k') = if k = k' then some (k, v) else es.find? (·.1 = k') := by
  induction es with
  | nil => by_cases h : k = k' <;> simp [put, h]
  | cons e es ih =>
    by_cases h : e.1 = k
    · by_cases hk : k = k'
      · simp [put, h, hk]
      · have he : ¬e.1 = k' := fun hc => hk (h ▸ hc)
        simp [put, h, hk]
    · by_cases hk : k = k'
      · subst hk
        simp [put, h, ih]
      · by_cases he : e.1 = k'
        · simp only [put, if_neg h, if_neg hk]
          rw [List.find?_cons_of_pos (by simpa using he),
            List.find?_cons_of_pos (by simpa using he)]
        · simp only [put, if_neg h, if_neg hk]
          rw [List.find?_cons_of_neg (by simpa using he),
            List.find?_cons_of_neg (by simpa using he), ih, if_neg hk]

theorem get?_insert (d : Dict κ ν) (k k' : κ) (v : ν) :
    (d.insert k v).get? k' = if k = k' then some v else d.get? k' := by
  simp only [get?, insert, find?_put]
  split <;> simp

theorem get?_eq_none_iff (d : Dict κ ν) (k : κ) : d.get? k = none ↔ k ∉ d.keys := by
  simp [get?, keys, List.find?_eq_none]
  constructor
  · intro h v hv
    exact h k v hv rfl
  · rintro h a v hv rfl
    exact h v hv

theorem get?_eq_some_iff (d : Dict κ ν) (k : κ) (v : ν) :
    d.get? k = some v ↔ (k, v) ∈ d.entries := by
  obtain ⟨es, h⟩ := d
  show (es.find? (·.1 = k)).map Prod.snd = some v ↔ (k, v) ∈ es
  induction es with
  | nil => simp
  | cons e es ih =>
    rw [List.map_cons, List.nodup_cons] at h
    by_cases hk : e.1 = k
    · have hnot : (k, v) ∉ es := fun hmem => h.1 (hk ▸ List.mem_map_of_mem hmem)
      obtain ⟨k', v'⟩ := e
      cases hk
      simp [hnot, eq_comm]
    · have hne : (k, v) ≠ e := fun he => hk (by rw [← he])
      rw [List.find?_cons_of_neg (by simpa using hk), List.mem_cons, ih h.2]
      simp [hne]

end Dict

end FixturePragmas
