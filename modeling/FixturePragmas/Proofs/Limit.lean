import FixturePragmas.Scan
import Mathlib.Data.List.Basic
import Mathlib.Data.List.Induction
import Mathlib.Data.Nat.Digits.Defs

/-!
# What a scan reads, and the numerals it refuses

A comment is read in full before any of its numerals is judged, so what a text declares can be said
without the limit on numerals (`Declaration.declared`), and so can the lines of a scan
(`Scan.readLines`). The limit then only decides whether this reading is given out: the first numeral
that is too long, in the order of the text, is the failure (`ofComment_eq`, `scan_eq`).
-/

namespace FixturePragmas

/-! ### Giving out a value unless a numeral is too long -/

namespace Text.Numeral

variable {α β γ : Type}

/-- Whether a run of digits is beyond the limit. -/
def tooLong (ds : List Char) : Bool := decide (limit < ds.length)

/-- The value `a`, unless one of the numerals `ns` is too long; the first such is the failure. -/
def unlessTooLong (ns : List (List Char)) (a : α) : Except Error α :=
  match ns.find? tooLong with
  | none => .ok a
  | some ds => .error (.tooLong ds.length)

theorem unlessTooLong_eq_ok_iff {ns : List (List Char)} {a b : α} :
    unlessTooLong ns a = .ok b ↔ (∀ ds ∈ ns, ds.length ≤ limit) ∧ a = b := by
  have hshort : ns.find? tooLong = none ↔ ∀ ds ∈ ns, ds.length ≤ limit := by
    simp [List.find?_eq_none, tooLong]
  unfold unlessTooLong
  cases h : ns.find? tooLong with
  | none =>
    have hall := hshort.mp h
    simp only [Except.ok.injEq]
    exact ⟨fun hab => ⟨hall, hab⟩, fun hab => hab.2⟩
  | some ds =>
    refine ⟨fun hab => by simp at hab, fun hab => ?_⟩
    rw [hshort.mpr hab.1] at h
    exact absurd h (by simp)

theorem exists_unlessTooLong_eq_ok_iff {ns : List (List Char)} {a : α} :
    (∃ b, unlessTooLong ns a = .ok b) ↔ ∀ ds ∈ ns, ds.length ≤ limit := by
  constructor
  · rintro ⟨b, hb⟩
    exact (unlessTooLong_eq_ok_iff.mp hb).1
  · intro hshort
    exact ⟨a, unlessTooLong_eq_ok_iff.mpr ⟨hshort, rfl⟩⟩

theorem unlessTooLong_eq_error_iff {ns : List (List Char)} {a : α} {e : Error} :
    unlessTooLong ns a = .error e ↔
      ∃ ds, ns.find? tooLong = some ds ∧ e = .tooLong ds.length := by
  unfold unlessTooLong
  cases ns.find? tooLong <;> simp [eq_comm]

theorem map_unlessTooLong (f : α → β) (ns : List (List Char)) (a : α) :
    (unlessTooLong ns a).map f = unlessTooLong ns (f a) := by
  unfold unlessTooLong
  cases ns.find? tooLong <;> rfl

/-- One judgement after another is the judgement on both lists. -/
theorem unlessTooLong_bind (ns ms : List (List Char)) (a : α) (f : α → β) :
    (unlessTooLong ns a >>= fun x => unlessTooLong ms (f x)) = unlessTooLong (ns ++ ms) (f a) := by
  unfold unlessTooLong
  rw [List.find?_append]
  cases ns.find? tooLong <;> rfl

/-- Judging the parts in their order is judging all their numerals in one row. -/
theorem mapM_unlessTooLong (ns : α → List (List Char)) (v : α → β) (xs : List α) :
    (xs.mapM fun x => unlessTooLong (ns x) (v x)) = unlessTooLong (xs.flatMap ns) (xs.map v) := by
  induction xs with
  | nil => rfl
  | cons x xs ih =>
    rw [List.mapM_cons, ih]
    have hrest : ∀ y : β, (unlessTooLong (xs.flatMap ns) (xs.map v) >>= fun ys =>
        (pure (y :: ys) : Except Error (List β))) =
          unlessTooLong (xs.flatMap ns) (y :: xs.map v) := by
      intro y
      exact map_unlessTooLong (y :: ·) (xs.flatMap ns) (xs.map v)
    simp only [hrest]
    exact unlessTooLong_bind (ns x) (xs.flatMap ns) (v x) (fun y => y :: xs.map v)

theorem value_eq_ofDigits (vs : List Nat) : value vs = Nat.ofDigits 10 vs.reverse := by
  induction vs using List.reverseRecOn with
  | nil => rfl
  | append_singleton vs v ih =>
    rw [List.reverse_append, List.reverse_singleton, List.singleton_append, Nat.ofDigits_cons, ← ih]
    show (vs ++ [v]).foldl _ 0 = _
    rw [List.foldl_concat]
    exact Nat.add_comm _ _

end Text.Numeral

open Text.Numeral (unlessTooLong tooLong limit)

/-! ### Comments -/

namespace Declaration

/-- The digits of an entry's column, if it has one. -/
def Entry.numeral? : Entry → Option (List Char)
  | .column digits _ => some digits
  | .message _ => none

/-- The issue an entry stands for, however long its numeral: the column is the number whose decimal
digits are written, the message what stands between the quotes. -/
def Entry.issue : Entry → Issue
  | .column digits message? =>
    ⟨String.ofList (message?.getD []),
      (Nat.ofDigits 10 (digits.reverse.map Text.Numeral.asciiValue) : Nat)⟩
  | .message text => ⟨String.ofList text, 0⟩

/-- The numerals of a declaration, in the order written. -/
def Written.numerals (w : Written) : List (List Char) := w.entries.filterMap Entry.numeral?

/-- The declaration that a written one stands for, however long its numerals. -/
def Written.declaration (w : Written) : Declaration :=
  ⟨String.ofList w.code, w.entries.map Entry.issue⟩

/-- The numerals that stand for columns in a comment, in the order written. -/
def numerals (cs : List Char) : List (List Char) := (Written.all cs).flatMap Written.numerals

/-- What a comment declares, however long its numerals. -/
def declared (cs : List Char) : List Declaration := (Written.all cs).map Written.declaration

theorem Entry.issue?_eq (e : Entry) :
    e.issue? = unlessTooLong e.numeral?.toList e.issue := by
  cases e with
  | message text => rfl
  | column digits message? =>
    -- the digits are converted only within the limit; the two sums differ in their direction
    by_cases h : limit < digits.length
    · simp [Entry.issue?, Entry.numeral?, Text.Numeral.ofDigits, unlessTooLong, tooLong, h,
        Except.map]
    · have hvalue := Text.Numeral.value_eq_ofDigits (digits.map Text.Numeral.asciiValue)
      rw [← List.map_reverse] at hvalue
      simp [Entry.issue?, Entry.numeral?, Entry.issue, Text.Numeral.ofDigits, unlessTooLong,
        tooLong, h, Except.map, hvalue]

theorem mapM_issue?_eq (es : List Entry) :
    es.mapM Entry.issue? = unlessTooLong (es.filterMap Entry.numeral?) (es.map Entry.issue) := by
  rw [funext Entry.issue?_eq, Text.Numeral.mapM_unlessTooLong]
  congr 1
  exact (List.filterMap_eq_flatMap_toList Entry.numeral? es).symm

theorem Written.declaration?_eq (w : Written) :
    w.declaration? = unlessTooLong w.numerals w.declaration := by
  rw [Written.declaration?, mapM_issue?_eq]
  exact Text.Numeral.map_unlessTooLong _ _ _

/-- Reading a comment gives what it declares, unless a numeral is too long. -/
theorem ofComment_eq (cs : List Char) : ofComment cs = unlessTooLong (numerals cs) (declared cs) := by
  unfold ofComment
  rw [funext Written.declaration?_eq]
  exact Text.Numeral.mapM_unlessTooLong _ _ _

theorem ofComment_nil : ofComment [] = .ok [] := by
  simp [ofComment, Written.all, nextGroup?, pure, Except.pure]

theorem ofComment_eq_ok {cs : List Char} {ws : List Written} (hall : Written.all cs = ws)
    (hlimit : ∀ w ∈ ws, ∀ n ∈ w.numerals, n.length ≤ limit) :
    ofComment cs = .ok (ws.map Written.declaration) := by
  subst hall
  rw [ofComment_eq, Text.Numeral.unlessTooLong_eq_ok_iff]
  refine ⟨fun n hn => ?_, rfl⟩
  obtain ⟨w, hw, hnw⟩ := List.mem_flatMap.mp hn
  exact hlimit w hw n hnw

end Declaration

/-! ### Whole texts -/

/-- The line `cs` under the openers `openers`, however long its numerals. -/
def ReadLine.seen (openers : List String) (cs : List Char) : ReadLine :=
  ⟨(Line.classify openers cs).kind, Declaration.declared (Line.classify openers cs).comment⟩

namespace Scan

/-- The numerals that stand for columns in the comments of a text, in the order written. -/
def numerals (openers : List String) (content : List Char) : List (List Char) :=
  (Text.lines content).flatMap fun l => Declaration.numerals (Line.classify openers l).comment

/-- The lines of a text as a scan sees them, however long their numerals. -/
def readLines (openers : List String) (content : List Char) : List ReadLine :=
  (Text.lines content).map (ReadLine.seen openers)

end Scan

theorem ReadLine.ofText_eq (openers : List String) (content : List Char) :
    ReadLine.ofText openers content =
      unlessTooLong (Scan.numerals openers content) (Scan.readLines openers content) := by
  -- line by line first, so that all numerals of the text are judged in one row
  have hline : ∀ l, ReadLine.ofLine openers l =
      unlessTooLong (Declaration.numerals (Line.classify openers l).comment)
        (ReadLine.seen openers l) := by
    intro l
    show (Declaration.ofComment _).map _ = _
    rw [Declaration.ofComment_eq]
    exact Text.Numeral.map_unlessTooLong _ _ _
  unfold ReadLine.ofText
  rw [funext hline]
  exact Text.Numeral.mapM_unlessTooLong _ _ _

/-- A scan gives the table of the lines, unless a numeral is too long. -/
theorem scan_eq (openers : List String) (content : List Char) :
    scan openers content =
      unlessTooLong (Scan.numerals openers content)
        (Scan.tableOf (Scan.readLines openers content)) := by
  unfold scan
  rw [ReadLine.ofText_eq]
  exact Text.Numeral.map_unlessTooLong _ _ _

theorem scan_eq_ok {openers : List String} {content : List Char}
    (h : ∀ ds ∈ Scan.numerals openers content, ds.length ≤ limit) :
    scan openers content = .ok (Scan.tableOf (Scan.readLines openers content)) := by
  rw [scan_eq]
  exact Text.Numeral.unlessTooLong_eq_ok_iff.mpr ⟨h, rfl⟩

end FixturePragmas
