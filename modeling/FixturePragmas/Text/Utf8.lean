import FixturePragmas.Text.Quoted

/-!
# UTF-8

Bytes are decoded one character at a time. A sequence that is not well formed is reported with the
place of its first byte, the number of bytes that still form the beginning of some character, and
what stopped it there: a byte that starts no character, a byte that cannot continue the one begun,
or the end of the data. Places count bytes of the data from zero.
-/

namespace FixturePragmas.Text.Utf8

/-- What stopped the decoding of a character. -/
inductive Cause where
  | invalidStart
  | invalidContinuation
  | endOfData
  deriving DecidableEq, Repr

/-- A sequence of bytes that is no character: its place, how many bytes it has, the first of them.
-/
structure Malformed where
  start : Nat
  length : Nat
  lead : UInt8
  cause : Cause
  deriving DecidableEq, Repr

/-- The wording of a cause. -/
def Cause.message : Cause → String
  | .invalidStart => "invalid start byte"
  | .invalidContinuation => "invalid continuation byte"
  | .endOfData => "unexpected end of data"

/-- The wording of a fault; a single byte is shown, several are given by their places. -/
def Malformed.message (m : Malformed) : String :=
  let place :=
    if m.length = 1 then
      s!"byte 0x{String.ofList (hexDigits 2 m.lead.toNat)} in position {m.start}"
    else s!"bytes in position {m.start}-{m.start + m.length - 1}"
  s!"'utf-8' codec can't decode {place}: {m.cause.message}"

/-- The bytes that may follow the byte `lead` of a longer character: the range of the second byte,
and how many bytes follow in all. -/
def Lead.follow? (lead : UInt8) : Option (UInt8 × UInt8 × Nat) :=
  -- C0 and C1 could only begin a character that one byte can write
  if 0xC2 ≤ lead ∧ lead ≤ 0xDF then some (0x80, 0xBF, 1)
  -- the second byte is narrowed where a shorter form, half a pair or no code point would come out
  else if lead = 0xE0 then some (0xA0, 0xBF, 2)
  else if lead = 0xED then some (0x80, 0x9F, 2)
  else if 0xE1 ≤ lead ∧ lead ≤ 0xEF then some (0x80, 0xBF, 2)
  else if lead = 0xF0 then some (0x90, 0xBF, 3)
  else if 0xF1 ≤ lead ∧ lead ≤ 0xF3 then some (0x80, 0xBF, 3)
  else if lead = 0xF4 then some (0x80, 0x8F, 3)
  else none

/-- How many bytes follow the byte `lead` in a character. -/
def Lead.followers (lead : UInt8) : Nat := ((Lead.follow? lead).map (·.2.2)).getD 0

/-- The six bits that a continuation byte adds to a code point. -/
def payload (b : UInt8) : Nat := b.toNat % 64

/-- Read `count` continuation bytes, the first within `low` and `high`, onto the bits `bits`: the
code point and the remaining bytes, or how many of them were good and what stopped the reading. -/
def continuation (low high : UInt8) (bits : Nat) :
    (count : Nat) → List UInt8 → Except (Nat × Cause) (Nat × List UInt8)
  | 0, bs => .ok (bits, bs)
  | _ + 1, [] => .error (0, .endOfData)
  | count + 1, b :: bs =>
    if low ≤ b ∧ b ≤ high then
      -- only the second byte of a character has a range of its own
      (continuation 0x80 0xBF (64 * bits + payload b) count bs).mapError fun e => (e.1 + 1, e.2)
    else .error (0, .invalidContinuation)

/-- The bits of a code point that its first byte holds, when `count` bytes follow. -/
def leadBits (lead : UInt8) (count : Nat) : Nat := lead.toNat % Nat.pow 2 (6 - count)

/-- Read one character that starts with the byte `lead`. -/
def character (position : Nat) (lead : UInt8) (bs : List UInt8) :
    Except Malformed (Char × List UInt8) :=
  if lead < 0x80 then .ok (Char.ofNat lead.toNat, bs)
  else
    match Lead.follow? lead with
    | none => .error ⟨position, 1, lead, .invalidStart⟩
    | some (low, high, count) =>
      match continuation low high (leadBits lead count) count bs with
      | .ok (n, rest) => .ok (Char.ofNat n, rest)
      | .error (good, cause) => .error ⟨position, good + 1, lead, cause⟩

theorem continuation_length {low high : UInt8} {bits count n : Nat} {bs rest : List UInt8}
    (h : continuation low high bits count bs = .ok (n, rest)) : rest.length ≤ bs.length := by
  induction count generalizing low high bits bs with
  | zero =>
    simp only [continuation, Except.ok.injEq, Prod.mk.injEq] at h
    exact h.2 ▸ Nat.le_refl _
  | succ count ih =>
    cases bs with
    | nil => simp [continuation] at h
    | cons b bs =>
      simp only [continuation] at h
      split at h
      · cases hc : continuation 0x80 0xBF (64 * bits + payload b) count bs with
        | error e =>
          rw [hc] at h
          have hfault : (.error (e.1 + 1, e.2) : Except _ (Nat × List UInt8)) = .ok (n, rest) := h
          cases hfault
        | ok p =>
          rw [hc] at h
          have hread : (.ok p : Except (Nat × Cause) _) = .ok (n, rest) := h
          have := ih (Except.ok.inj hread ▸ hc)
          simp only [List.length_cons]
          omega
      · simp at h

theorem character_length {position : Nat} {lead : UInt8} {bs rest : List UInt8} {c : Char}
    (h : character position lead bs = .ok (c, rest)) : rest.length ≤ bs.length := by
  unfold character at h
  split at h
  · simp only [Except.ok.injEq, Prod.mk.injEq] at h
    exact h.2 ▸ Nat.le_refl _
  · split at h
    · simp at h
    · split at h
      · next hc =>
        simp only [Except.ok.injEq, Prod.mk.injEq] at h
        exact h.2 ▸ continuation_length hc
      · simp at h

/-- The text that starts at the byte with number `position`. -/
def decodeAt (position : Nat) (bs : List UInt8) : Except Malformed (List Char) :=
  match bs with
  | [] => .ok []
  | lead :: rest =>
    match h : character position lead rest with
    | .error e => .error e
    | .ok (c, rest') =>
      (decodeAt (position + 1 + Lead.followers lead) rest').map (c :: ·)
termination_by bs.length
decreasing_by
  have := character_length h
  simp only [List.length_cons]
  omega

/-- The text that the bytes stand for. -/
def decode (bs : List UInt8) : Except Malformed (List Char) := decodeAt 0 bs

/-- The bytes of a text. -/
def encode (cs : List Char) : List UInt8 := cs.flatMap String.utf8EncodeChar

end FixturePragmas.Text.Utf8
