import FixturePragmas.Journal
import Mathlib.Data.List.Forall2

/-!
# Outcomes and entries of computations

How a computation ends can be told without its entries: outcomes compose as they do without a
journal (`outcome_bind`, `outcome_mapM`). So a computation over a list is read in two steps, first
off its entries and then by the two ways in which a list of steps ends: every step gives a value, or
the first that fails decides. What kinds of failures and of entries there can be is told step by
step (`Steps.FailsAs`, `Journal.Writes`), and so is, for steps that look for faults in an order, that
the first fault is the one reported (`Steps.ReportsFirst`). Two computations that take the same steps
are compared by what can be seen of their entries (`Journal.Alike`).
-/

namespace FixturePragmas

/-! ### One step after another -/

namespace Steps

variable {ε α β : Type}

theorem bind_eq_ok_iff {x : Except ε α} {f : α → Except ε β} {b : β} :
    x >>= f = .ok b ↔ ∃ a, x = .ok a ∧ f a = .ok b := by
  cases x with
  | error e => exact ⟨nofun, nofun⟩
  | ok a => exact ⟨fun h => ⟨a, rfl, h⟩, fun ⟨_, ha, h⟩ => Except.ok.inj ha ▸ h⟩

theorem bind_eq_error_iff {x : Except ε α} {f : α → Except ε β} {e : ε} :
    x >>= f = .error e ↔ x = .error e ∨ ∃ a, x = .ok a ∧ f a = .error e := by
  cases x with
  | error e' => simp [bind, Except.bind]
  | ok a => simp [bind, Except.bind]

theorem map_eq_ok_iff {f : α → β} {x : Except ε α} {b : β} :
    x.map f = .ok b ↔ ∃ a, x = .ok a ∧ f a = b := by
  cases x with
  | error e => simp [Except.map]
  | ok a => simp [Except.map]

theorem map_eq_error_iff {f : α → β} {x : Except ε α} {e : ε} :
    x.map f = .error e ↔ x = .error e := by
  cases x with
  | error e' => simp [Except.map]
  | ok a => simp [Except.map]

theorem exists_of_isOk {x : Except ε α} (h : x.isOk = true) : ∃ a, x = .ok a := by
  cases x with
  | error e => cases h
  | ok a => exact ⟨a, rfl⟩

theorem mapM_eq_ok_iff {f : α → Except ε β} {xs : List α} {ys : List β} :
    xs.mapM f = .ok ys ↔ List.Forall₂ (fun x y => f x = .ok y) xs ys := by
  induction xs generalizing ys with
  | nil => cases ys <;> simp [pure, Except.pure]
  | cons x xs ih =>
    -- the first step fails, or it succeeds and one of the others fails, or all succeed
    rw [List.mapM_cons]
    cases hx : f x with
    | error e => cases ys <;> simp [bind, Except.bind, hx]
    | ok y =>
      cases hxs : xs.mapM f with
      | error e => cases ys <;> simp [bind, Except.bind, ← ih, hx, hxs]
      | ok ys' => cases ys <;> simp [bind, Except.bind, pure, Except.pure, ← ih, hx, hxs]

theorem exists_mapM_eq_ok {f : α → Except ε β} {xs : List α} (h : ∀ x ∈ xs, ∃ y, f x = .ok y) :
    ∃ ys, xs.mapM f = .ok ys := by
  induction xs with
  | nil => exact ⟨[], rfl⟩
  | cons x xs ih =>
    obtain ⟨y, hy⟩ := h x List.mem_cons_self
    obtain ⟨ys, hys⟩ := ih fun x' hx' => h x' (List.mem_cons_of_mem x hx')
    exact ⟨y :: ys, mapM_eq_ok_iff.mpr (.cons hy (mapM_eq_ok_iff.mp hys))⟩

theorem exists_of_mapM_eq_ok {f : α → Except ε β} {xs : List α} {ys : List β}
    (h : xs.mapM f = .ok ys) : ∀ x ∈ xs, ∃ y, f x = .ok y := by
  rw [mapM_eq_ok_iff] at h
  induction h with
  | nil => exact fun x hx => absurd hx List.not_mem_nil
  | cons hxy _ ih => exact List.forall_mem_cons.mpr ⟨⟨_, hxy⟩, ih⟩

/-- The first step that fails decides. -/
theorem mapM_eq_error_of_first {f : α → Except ε β} {before after : List α} {x : α} {e : ε}
    (hbefore : ∀ x' ∈ before, ∃ y, f x' = .ok y) (hx : f x = .error e) :
    (before ++ x :: after).mapM f = .error e := by
  obtain ⟨ys, hys⟩ := exists_mapM_eq_ok hbefore
  rw [List.mapM_append, hys, List.mapM_cons, hx]
  rfl

/-- Whether a step can fail in ways of one kind only. -/
def FailsAs (P : ε → Prop) (x : Except ε α) : Prop := ∀ e, x = .error e → P e

namespace FailsAs

variable {P : ε → Prop}

theorem ok (a : α) : FailsAs P (.ok a : Except ε α) := nofun

theorem error {e : ε} (h : P e) : FailsAs P (.error e : Except ε α) := fun _ he =>
  Except.error.inj he ▸ h

protected theorem bind {x : Except ε α} {f : α → Except ε β} (hx : FailsAs P x)
    (hf : ∀ a, x = .ok a → FailsAs P (f a)) : FailsAs P (x >>= f) := by
  cases x with
  | error e => exact error (hx e rfl)
  | ok a => exact hf a rfl

protected theorem mapM {f : α → Except ε β} (hf : ∀ a, FailsAs P (f a)) (xs : List α) :
    FailsAs P (xs.mapM f) := by
  induction xs with
  | nil => exact ok []
  | cons x xs ih =>
    rw [List.mapM_cons]
    exact (hf x).bind fun _ _ => ih.bind fun _ _ => ok _

protected theorem mapError {ε' : Type} {g : ε' → ε} {x : Except ε' α}
    (h : ∀ e, x = .error e → P (g e)) : FailsAs P (x.mapError g) := by
  cases x with
  | error e => exact error (h e rfl)
  | ok a => exact ok a

end FailsAs

/-- The fault `e` if the condition `c` holds, and none otherwise. -/
def faultIf (c : Prop) [Decidable c] (e : ε) : List ε := if c then [e] else []

theorem mem_faultIf_iff {c : Prop} [Decidable c] {e e' : ε} :
    e' ∈ faultIf c e ↔ c ∧ e' = e := by
  unfold faultIf
  split
  · next h => simp [h]
  · next h => simp [h]

/-- Whether a step fails with the first of the faults `es`, and does not fail if there is none. -/
def ReportsFirst (es : List ε) (x : Except ε α) : Prop := ∀ e, x = .error e ↔ es.head? = some e

namespace ReportsFirst

variable {es es' : List ε}

theorem ok (a : α) : ReportsFirst [] (.ok a : Except ε α) := fun _ => ⟨nofun, nofun⟩

theorem error (e : ε) (es : List ε) : ReportsFirst (e :: es) (.error e : Except ε α) := fun e' => by
  rw [List.head?_cons, Option.some.injEq, Except.error.injEq]

/-- A step with one condition. -/
theorem of_condition {c : Prop} [Decidable c] {e : ε} {x : Except ε α} (hc : c → x = .error e)
    (hok : ¬c → ∃ a, x = .ok a) : ReportsFirst (faultIf c e) x := by
  unfold faultIf
  split
  · next h =>
    rw [hc h]
    exact error e []
  · next h =>
    obtain ⟨a, rfl⟩ := hok h
    exact ok a

theorem eq_nil_of_ok {a : α} (h : ReportsFirst es (.ok a : Except ε α)) : es = [] := by
  cases es with
  | nil => rfl
  | cons e es => cases (h e).mpr rfl

theorem exists_error_iff {x : Except ε α} (h : ReportsFirst es x) :
    (∃ e, x = .error e) ↔ es ≠ [] := by
  cases es with
  | nil =>
    refine ⟨fun ⟨e, he⟩ => ?_, fun hne => absurd rfl hne⟩
    cases (h e).mp he
  | cons e es => exact ⟨fun _ => List.cons_ne_nil e es, fun _ => ⟨e, (h e).mpr rfl⟩⟩

/-- The faults of one step come before those of the next. -/
protected theorem bind {x : Except ε α} {f : α → Except ε β} (hx : ReportsFirst es x)
    (hf : ∀ a, x = .ok a → ReportsFirst es' (f a)) : ReportsFirst (es ++ es') (x >>= f) := by
  cases x with
  | error e =>
    obtain ⟨es, rfl⟩ := List.head?_eq_some_iff.mp ((hx e).mp rfl)
    exact error e (es ++ es')
  | ok a =>
    rw [hx.eq_nil_of_ok]
    exact hf a rfl

protected theorem map {x : Except ε α} (f : α → β) (hx : ReportsFirst es x) :
    ReportsFirst es (x.map f) := fun e => by
  rw [map_eq_error_iff, hx e]

/-- Over a list the faults come in the order of its elements. -/
protected theorem mapM {f : α → Except ε β} {faults : α → List ε}
    (hf : ∀ a, ReportsFirst (faults a) (f a)) (xs : List α) :
    ReportsFirst (xs.flatMap faults) (xs.mapM f) := by
  induction xs with
  | nil => exact ok []
  | cons x xs ih =>
    rw [List.mapM_cons, List.flatMap_cons]
    refine (hf x).bind fun y _ => ?_
    rw [← List.append_nil (xs.flatMap faults)]
    exact ih.bind fun ys _ => ok (y :: ys)

end ReportsFirst

end Steps

namespace Journal

variable {ω ω' ε ε' α β : Type}

/-! ### Outcomes -/

@[simp] theorem outcome_pure (a : α) : (pure a : Journal ω ε α).outcome = .ok a := rfl

@[simp] theorem outcome_write (w : ω) : (write w : Journal ω ε Unit).outcome = .ok () := rfl

@[simp] theorem outcome_ofExcept (x : Except ε α) : (ofExcept x : Journal ω ε α).outcome = x := rfl

@[simp] theorem outcome_mapError (f : ε → ε') (x : Journal ω ε α) :
    (x.mapError f).outcome = x.outcome.mapError f := rfl

@[simp] theorem outcome_mapEntries (f : ω → ω') (x : Journal ω ε α) :
    (x.mapEntries f).outcome = x.outcome := rfl

@[simp] theorem outcome_attempt (x : Journal ω ε α) :
    (x.attempt : Journal ω ε' (Except ε α)).outcome = .ok x.outcome := rfl

@[simp] theorem outcome_bind (x : Journal ω ε α) (f : α → Journal ω ε β) :
    (x >>= f).outcome = x.outcome >>= fun a => (f a).outcome := by
  obtain ⟨es, o⟩ := x
  cases o <;> rfl

theorem outcome_mapM (f : α → Journal ω ε β) (xs : List α) :
    (xs.mapM f).outcome = xs.mapM fun x => (f x).outcome := by
  induction xs with
  | nil => rfl
  | cons x xs ih =>
    simp only [List.mapM_cons, outcome_bind, outcome_pure, ih]
    rfl

/-! ### Entries -/

theorem entries_bind_of_ok {x : Journal ω ε α} {a : α} (h : x.outcome = .ok a)
    (f : α → Journal ω ε β) : (x >>= f).entries = x.entries ++ (f a).entries := by
  obtain ⟨es, o⟩ := x
  cases h
  rfl

theorem bind_of_error {x : Journal ω ε α} {e : ε} (h : x.outcome = .error e)
    (f : α → Journal ω ε β) : x >>= f = ⟨x.entries, .error e⟩ := by
  obtain ⟨es, o⟩ := x
  cases h
  rfl

theorem entries_mapM_cons (f : α → Journal ω ε β) (x : α) (xs : List α) :
    ((x :: xs).mapM f).entries =
      (f x).entries ++ if (f x).outcome.isOk then (xs.mapM f).entries else [] := by
  rw [List.mapM_cons]
  cases hx : (f x).outcome with
  | error e =>
    rw [bind_of_error hx]
    exact (List.append_nil _).symm
  | ok y =>
    rw [entries_bind_of_ok hx]
    refine congrArg _ ?_
    cases hxs : (xs.mapM f).outcome with
    | error e =>
      rw [bind_of_error hxs]
      rfl
    | ok ys => exact (entries_bind_of_ok hxs _).trans (List.append_nil _)

/-- Whether all entries that a computation writes are of a kind. -/
def Writes (P : ω → Prop) (x : Journal ω ε α) : Prop := ∀ w ∈ x.entries, P w

namespace Writes

variable {P : ω → Prop}

theorem of_nil {x : Journal ω ε α} (h : x.entries = []) : x.Writes P := by
  intro w hw
  rw [h] at hw
  exact absurd hw List.not_mem_nil

protected theorem write {w : ω} (h : P w) : (write w : Journal ω ε Unit).Writes P := by
  intro w' hw'
  rwa [List.mem_singleton.mp hw']

protected theorem bind {x : Journal ω ε α} {f : α → Journal ω ε β} (hx : x.Writes P)
    (hf : ∀ a, (f a).Writes P) : (x >>= f).Writes P := by
  cases ho : x.outcome with
  | error e =>
    rw [bind_of_error ho]
    exact hx
  | ok a =>
    intro w hw
    rw [entries_bind_of_ok ho] at hw
    rcases List.mem_append.mp hw with hw | hw
    · exact hx w hw
    · exact hf a w hw

protected theorem mapM {f : α → Journal ω ε β} (hf : ∀ a, (f a).Writes P) (xs : List α) :
    (xs.mapM f).Writes P := by
  induction xs with
  | nil => exact of_nil rfl
  | cons x xs ih =>
    rw [List.mapM_cons]
    exact (hf x).bind fun _ => ih.bind fun _ => of_nil rfl

end Writes

/-! ### Two computations -/

/-- Whether two computations end alike, and what `f` shows of the entries of the first is what `g`
shows of the entries of the second. -/
structure Alike {τ : Type} (f g : ω → List τ) (x y : Journal ω ε α) : Prop where
  view : x.entries.flatMap f = y.entries.flatMap g
  outcome : x.outcome = y.outcome

namespace Alike

variable {τ : Type} {f g : ω → List τ}

theorem of_writes {x : Journal ω ε α} (h : x.Writes fun w => f w = g w) : Alike f g x x :=
  ⟨List.flatMap_congr h, rfl⟩

protected theorem bind {x y : Journal ω ε α} {k k' : α → Journal ω ε β} (hxy : Alike f g x y)
    (hk : ∀ a, Alike f g (k a) (k' a)) : Alike f g (x >>= k) (y >>= k') := by
  cases hx : x.outcome with
  | error e =>
    rw [bind_of_error hx, bind_of_error (hxy.outcome.symm.trans hx)]
    exact ⟨hxy.view, rfl⟩
  | ok a =>
    have hy : y.outcome = .ok a := hxy.outcome.symm.trans hx
    refine ⟨?_, ?_⟩
    · rw [entries_bind_of_ok hx, entries_bind_of_ok hy, List.flatMap_append, List.flatMap_append,
        hxy.view, (hk a).view]
    · rw [outcome_bind, outcome_bind, hx, hy]
      exact (hk a).outcome

protected theorem mapM {k k' : α → Journal ω ε β} (hk : ∀ a, Alike f g (k a) (k' a))
    (xs : List α) : Alike f g (xs.mapM k) (xs.mapM k') := by
  induction xs with
  | nil => exact ⟨rfl, rfl⟩
  | cons x xs ih =>
    rw [List.mapM_cons, List.mapM_cons]
    exact (hk x).bind fun _ => ih.bind fun _ => ⟨rfl, rfl⟩

end Alike

end Journal

end FixturePragmas
