import FixturePragmas.Declaration
import FixturePragmas.Text.Blank
import FixturePragmas.Text.Numeral

/-!
# Declarations as they are written in comments

A comment is prose in which declarations stand. A declaration is a group `[code]`, optionally
followed by a colon and a list of entries with commas between them; an entry is a column, a column
and a message between double quotes, or a message alone. White space may stand before every sign and
around the code. Nothing is ever refused: prose between declarations is passed over, and a list of
entries ends where the next sign fits no entry.

Reading has two steps. `Written.all` finds the declarations of a text with their digits still
unread, and is total; `Written.declaration?` reads the digits, which fails for numerals that are too
long. The lemmas say that each step of the reader leaves less text than it found.
-/

namespace FixturePragmas.Declaration

open Text (isBlank trim trimStart)

/-- An entry of a list, its column still in digits. -/
inductive Entry where
  | column (digits : List Char) (message? : Option (List Char))
  | message (text : List Char)
  deriving DecidableEq, Repr

/-- A declaration as it is written. -/
structure Written where
  code : List Char
  entries : List Entry
  deriving DecidableEq, Repr

/-! ### The signs of the notation -/

/-- What follows the sign `c`, if the text starts with it. -/
def sign? (c : Char) (cs : List Char) : Option (List Char) :=
  match trimStart cs with
  | [] => none
  | d :: rest => if d = c then some rest else none

/-- The digits a text starts with, if any, and what follows them. -/
def numeral? (cs : List Char) : Option (List Char × List Char) :=
  let body := trimStart cs
  match body.takeWhile Text.isAsciiDigit with
  | [] => none
  | d :: ds => some (d :: ds, body.dropWhile Text.isAsciiDigit)

/-- The text between double quotes that a text starts with, and what follows it. -/
def quotation? (cs : List Char) : Option (List Char × List Char) :=
  match sign? '"' cs with
  | none => none
  | some body =>
    -- quotes have no escapes; without a closing quote there is no text
    match body.dropWhile (· ≠ '"') with
    | [] => none
    | _ :: rest => some (body.takeWhile (· ≠ '"'), rest)

/-- The entry a text starts with, and what follows it. -/
def entry? (cs : List Char) : Option (Entry × List Char) :=
  match numeral? cs with
  | some (digits, rest) =>
    match quotation? rest with
    | some (text, rest') => some (.column digits (some text), rest')
    -- white space behind a column is left for the sign that follows
    | none => some (.column digits none, rest)
  | none => (quotation? cs).map fun q => (.message q.1, q.2)

/-! ### Each step leaves less -/

theorem sign?_length {c : Char} {cs rest : List Char} (h : sign? c cs = some rest) :
    rest.length < cs.length := by
  have hle := Text.trimStart_length_le cs
  unfold sign? at h
  split at h
  · simp at h
  · next d tail ht =>
    split at h
    · simp only [Option.some.injEq] at h
      rw [ht, List.length_cons, h] at hle
      omega
    · simp at h

theorem numeral?_length {cs ds rest : List Char} (h : numeral? cs = some (ds, rest)) :
    rest.length < cs.length := by
  have hle := Text.trimStart_length_le cs
  unfold numeral? at h
  dsimp only at h
  split at h
  · simp at h
  · next d tail ht =>
    simp only [Option.some.injEq, Prod.mk.injEq] at h
    have hsum := congrArg List.length
      (List.takeWhile_append_dropWhile (l := trimStart cs) (p := Text.isAsciiDigit))
    rw [List.length_append, ht, h.2, List.length_cons] at hsum
    omega

theorem quotation?_length {cs text rest : List Char} (h : quotation? cs = some (text, rest)) :
    rest.length < cs.length := by
  unfold quotation? at h
  split at h
  · simp at h
  · next body hs =>
    have hb := sign?_length hs
    split at h
    · simp at h
    · next tail ht =>
      simp only [Option.some.injEq, Prod.mk.injEq] at h
      have hle := (List.dropWhile_suffix (l := body) (fun c => decide (c ≠ '"'))).length_le
      rw [ht, List.length_cons, h.2] at hle
      omega

theorem entry?_length {cs rest : List Char} {e : Entry} (h : entry? cs = some (e, rest)) :
    rest.length < cs.length := by
  unfold entry? at h
  split at h
  · next digits rest₀ hn =>
    have hlt := numeral?_length hn
    split at h
    · next text rest' hq =>
      have := quotation?_length hq
      simp only [Option.some.injEq, Prod.mk.injEq] at h
      rw [← h.2]
      omega
    · simp only [Option.some.injEq, Prod.mk.injEq] at h
      rw [← h.2]
      exact hlt
  · rw [Option.map_eq_some_iff] at h
    obtain ⟨⟨text, rest'⟩, hq, he⟩ := h
    simp only [Prod.mk.injEq] at he
    rw [← he.2]
    exact quotation?_length hq

/-! ### Lists of entries -/

/-- The entries a text starts with, commas between them, and what follows them. A comma behind the
last entry is passed over. -/
def entries (cs : List Char) : List Entry × List Char :=
  match _he : entry? cs with
  | none => ([], cs)
  | some (e, rest) =>
    match _hs : sign? ',' rest with
    -- without a comma the list ends, whatever follows
    | none => ([e], rest)
    | some rest' =>
      let more := entries rest'
      (e :: more.1, more.2)
termination_by cs.length
decreasing_by
  have h₁ := entry?_length _he
  have h₂ := sign?_length _hs
  omega

theorem entries_length_le (cs : List Char) : (entries cs).2.length ≤ cs.length := by
  fun_induction entries cs with
  | case1 => exact Nat.le_refl _
  | case2 cs e rest he hs => exact Nat.le_of_lt (entry?_length he)
  | case3 cs e rest he rest' hs more ih =>
    have h₁ := entry?_length he
    have h₂ := sign?_length hs
    exact Nat.le_trans ih (by omega)

/-! ### Groups -/

/-- Whether `c` may stand in a code: it is no bracket. -/
def inCode (c : Char) : Bool := decide (c ≠ '[' ∧ c ≠ ']')

/-- The inside of the group `[x]` that a text starts with, and what follows it. The inside is not
empty and holds no bracket. -/
def group? : List Char → Option (List Char × List Char)
  | [] => none
  | c :: cs =>
    if c = '[' then
      -- up to the next bracket of either kind: an opening one means that no group starts here
      match cs.takeWhile inCode, cs.dropWhile inCode with
      | x :: xs, d :: rest => if d = ']' then some (x :: xs, rest) else none
      | _, _ => none
    else none

/-- The inside of the first group in a text, and what follows it. -/
def nextGroup? : List Char → Option (List Char × List Char)
  | [] => none
  | c :: cs =>
    match group? (c :: cs) with
    | some g => some g
    | none => nextGroup? cs

theorem group?_length {cs x rest : List Char} (h : group? cs = some (x, rest)) :
    rest.length < cs.length := by
  cases cs with
  | nil => simp [group?] at h
  | cons c cs =>
    simp only [group?] at h
    split at h
    · split at h
      · next y ys d tail _ hd =>
        split at h
        · simp only [Option.some.injEq, Prod.mk.injEq] at h
          have hle := (List.dropWhile_suffix (l := cs) inCode).length_le
          rw [hd, List.length_cons, h.2] at hle
          simp only [List.length_cons]
          omega
        · simp at h
      · simp at h
    · simp at h

theorem nextGroup?_length {cs x rest : List Char} (h : nextGroup? cs = some (x, rest)) :
    rest.length < cs.length := by
  induction cs with
  | nil => simp [nextGroup?] at h
  | cons c cs ih =>
    unfold nextGroup? at h
    split at h
    · next g hg =>
      rw [Option.some.injEq] at h
      exact group?_length (h ▸ hg)
    · exact Nat.lt_succ_of_lt (ih h)

/-! ### Whole comments -/

/-- The entries behind the group of a code, if a colon opens a list of them, and what follows. -/
def entriesAfterCode (cs : List Char) : List Entry × List Char :=
  match sign? ':' cs with
  | none => ([], cs)
  | some body => entries body

theorem entriesAfterCode_length_le (cs : List Char) :
    (entriesAfterCode cs).2.length ≤ cs.length := by
  unfold entriesAfterCode
  split
  · exact Nat.le_refl _
  · next body hs => exact Nat.le_trans (entries_length_le body) (Nat.le_of_lt (sign?_length hs))

/-- The declarations in a text, from left to right. A group that holds nothing but white space is
none. -/
def Written.all (cs : List Char) : List Written :=
  match _hg : nextGroup? cs with
  | none => []
  | some (x, rest) =>
    -- behind an empty group no list is looked for: a colon there is prose
    if trim x = [] then Written.all rest
    else
      let list := entriesAfterCode rest
      ⟨trim x, list.1⟩ :: Written.all list.2
termination_by cs.length
decreasing_by
  · exact nextGroup?_length _hg
  · exact Nat.lt_of_le_of_lt (entriesAfterCode_length_le rest) (nextGroup?_length _hg)

/-! ### What is declared -/

/-- The issue an entry stands for. -/
def Entry.issue? : Entry → Except Text.Numeral.Error Issue
  | .column digits message? =>
    (Text.Numeral.ofDigits digits).map fun n => ⟨String.ofList (message?.getD []), n⟩
  | .message text => .ok ⟨String.ofList text, 0⟩

/-- The declaration that a written one stands for. -/
def Written.declaration? (w : Written) : Except Text.Numeral.Error Declaration :=
  (w.entries.mapM Entry.issue?).map fun issues => ⟨String.ofList w.code, issues⟩

/-- The declarations of a comment. -/
def ofComment (cs : List Char) : Except Text.Numeral.Error (List Declaration) :=
  (Written.all cs).mapM Written.declaration?

end FixturePragmas.Declaration
