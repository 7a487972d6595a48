/-!
# Computations that keep a journal

A `Journal ω ε α` is what a step of the program leaves behind: the entries it wrote, oldest first,
and how it ended, with an `α` or with a failure `ε`. Entries written before a failure are kept.
-/

namespace FixturePragmas

/-- The entries a computation wrote, and how it ended. -/
structure Journal (ω ε α : Type) where
  entries : List ω
  outcome : Except ε α

namespace Journal

variable {ω ω' ε ε' α β : Type}

/-- Run `x`, then `f` on what it gave; the entries of both, in this order. -/
protected def bind (x : Journal ω ε α) (f : α → Journal ω ε β) : Journal ω ε β :=
  match x.outcome with
  | .error e => ⟨x.entries, .error e⟩
  -- what was written stays written, also when `f a` fails
  | .ok a =>
    let y := f a
    ⟨x.entries ++ y.entries, y.outcome⟩

instance : Monad (Journal ω ε) where
  pure a := ⟨[], .ok a⟩
  bind := Journal.bind

instance : MonadExcept ε (Journal ω ε) where
  throw e := ⟨[], .error e⟩
  tryCatch x f :=
    match x.outcome with
    | .ok _ => x
    | .error e =>
      let y := f e
      ⟨x.entries ++ y.entries, y.outcome⟩

/-- Write one entry. -/
def write (w : ω) : Journal ω ε Unit := ⟨[w], .ok ()⟩

/-- Write several entries. -/
def writeAll (ws : List ω) : Journal ω ε Unit := ⟨ws, .ok ()⟩

/-- A computation that writes nothing. -/
def ofExcept (x : Except ε α) : Journal ω ε α := ⟨[], x⟩

/-- The same computation with its failure read as another one. -/
def mapError (f : ε → ε') (x : Journal ω ε α) : Journal ω ε' α := ⟨x.entries, x.outcome.mapError f⟩

/-- The same computation with its entries read as others. -/
def mapEntries (f : ω → ω') (x : Journal ω ε α) : Journal ω' ε α := ⟨x.entries.map f, x.outcome⟩

/-- The failure of a computation as a value of its own, so that the caller goes on. -/
def attempt (x : Journal ω ε α) : Journal ω ε' (Except ε α) := ⟨x.entries, .ok x.outcome⟩

/-! ### The monad laws -/

theorem id_map_journal (x : Journal ω ε α) : id <$> x = x := by
  obtain ⟨es, o⟩ := x
  cases o <;> simp [Functor.map, Journal.bind]

theorem pure_bind_journal (a : α) (f : α → Journal ω ε β) :
    (pure a : Journal ω ε α) >>= f = f a := by
  simp [bind, pure, Journal.bind]

theorem bind_assoc_journal {γ : Type} (x : Journal ω ε α) (f : α → Journal ω ε β)
    (g : β → Journal ω ε γ) : x >>= f >>= g = x >>= fun a => f a >>= g := by
  obtain ⟨es, o⟩ := x
  cases o with
  | error e => rfl
  | ok a =>
    simp only [bind, Journal.bind]
    cases (f a).outcome <;> simp [List.append_assoc]

instance : LawfulMonad (Journal ω ε) :=
  LawfulMonad.mk' (Journal ω ε) id_map_journal pure_bind_journal bind_assoc_journal

end Journal

end FixturePragmas
