import FixturePragmas.Text.Utf8

/-!
# Decoding undoes encoding

The bytes that decode to a text are the encoding of this text and no others
(`Utf8.decode_eq_ok_iff`). One character is compared at a time: for each number of bytes, the bytes
are given by the code point (`encodeChar_eq_two_iff` and its like), and reading a character takes
exactly these bytes off a text (`character_eq_ok_iff`).
-/

namespace FixturePragmas.Text.Utf8

open String (utf8EncodeChar)

@[simp] theorem encode_cons (c : Char) (cs : List Char) :
    encode (c :: cs) = utf8EncodeChar c ++ encode cs := rfl

/-! ### The bytes of one character -/

theorem encodeChar_eq (c : Char) :
    utf8EncodeChar c =
      if c.toNat ≤ 0x7F then [UInt8.ofNat c.toNat]
      else if c.toNat ≤ 0x7FF then
        [UInt8.ofNat (c.toNat / 64 % 32 + 0xC0), UInt8.ofNat (c.toNat % 64 + 0x80)]
      else if c.toNat ≤ 0xFFFF then
        [UInt8.ofNat (c.toNat / 4096 % 16 + 0xE0), UInt8.ofNat (c.toNat / 64 % 64 + 0x80),
          UInt8.ofNat (c.toNat % 64 + 0x80)]
      else
        [UInt8.ofNat (c.toNat / 262144 % 8 + 0xF0), UInt8.ofNat (c.toNat / 4096 % 64 + 0x80),
          UInt8.ofNat (c.toNat / 64 % 64 + 0x80), UInt8.ofNat (c.toNat % 64 + 0x80)] := rfl

theorem toNat_range (c : Char) :
    c.toNat < 0xD800 ∨ 0xDFFF < c.toNat ∧ c.toNat < 0x110000 := c.valid

theorem toNat_ofNat {n : Nat} (h : n < 0xD800 ∨ 0xDFFF < n ∧ n < 0x110000) :
    (Char.ofNat n).toNat = n := by
  have hvalid : n.isValidChar := h
  rw [Char.ofNat, dif_pos hvalid]
  rfl

theorem encodeChar_eq_one_iff {c : Char} {a : UInt8} :
    utf8EncodeChar c = [a] ↔ c.toNat < 0x80 ∧ a.toNat = c.toNat := by
  -- of the four lengths only one fits; the others leave lists that differ
  rw [encodeChar_eq]
  generalize c.toNat = v
  repeat' split
  all_goals simp [← UInt8.toNat_inj]
  all_goals omega

theorem encodeChar_eq_two_iff {c : Char} {a b : UInt8} :
    utf8EncodeChar c = [a, b] ↔
      (0x80 ≤ c.toNat ∧ c.toNat < 0x800) ∧
        a.toNat = c.toNat / 64 + 0xC0 ∧ b.toNat = c.toNat % 64 + 0x80 := by
  rw [encodeChar_eq]
  generalize c.toNat = v
  repeat' split
  all_goals simp [← UInt8.toNat_inj]
  all_goals omega

theorem encodeChar_eq_three_iff {c : Char} {a b d : UInt8} :
    utf8EncodeChar c = [a, b, d] ↔
      (0x800 ≤ c.toNat ∧ c.toNat < 0x10000) ∧ a.toNat = c.toNat / 4096 + 0xE0 ∧
        b.toNat = c.toNat / 64 % 64 + 0x80 ∧ d.toNat = c.toNat % 64 + 0x80 := by
  rw [encodeChar_eq]
  generalize c.toNat = v
  repeat' split
  all_goals simp [← UInt8.toNat_inj]
  all_goals omega

theorem encodeChar_eq_four_iff {c : Char} {a b d e : UInt8} :
    utf8EncodeChar c = [a, b, d, e] ↔
      0x10000 ≤ c.toNat ∧ a.toNat = c.toNat / 262144 + 0xF0 ∧
        b.toNat = c.toNat / 4096 % 64 + 0x80 ∧ d.toNat = c.toNat / 64 % 64 + 0x80 ∧
        e.toNat = c.toNat % 64 + 0x80 := by
  have hrange := toNat_range c
  rw [encodeChar_eq]
  generalize c.toNat = v at hrange ⊢
  repeat' split
  all_goals simp [← UInt8.toNat_inj]
  all_goals omega

/-- A character has one to four bytes. -/
theorem exists_encodeChar_eq (c : Char) :
    (∃ a, utf8EncodeChar c = [a]) ∨ (∃ a b, utf8EncodeChar c = [a, b]) ∨
      (∃ a b d, utf8EncodeChar c = [a, b, d]) ∨ ∃ a b d e, utf8EncodeChar c = [a, b, d, e] := by
  rw [encodeChar_eq]
  split
  · exact .inl ⟨_, rfl⟩
  · split
    · exact .inr (.inl ⟨_, _, rfl⟩)
    · split
      · exact .inr (.inr (.inl ⟨_, _, _, rfl⟩))
      · exact .inr (.inr (.inr ⟨_, _, _, _, rfl⟩))

/-! ### Reading one character -/

theorem follow?_two {lead : UInt8} (h : 0xC2 ≤ lead.toNat ∧ lead.toNat ≤ 0xDF) :
    Lead.follow? lead = some (0x80, 0xBF, 1) := if_pos h

theorem toNat_ite_cases (b k x y : UInt8) :
    b.toNat = k.toNat ∧ (if b = k then x else y).toNat = x.toNat ∨
      b.toNat ≠ k.toNat ∧ (if b = k then x else y).toNat = y.toNat := by
  by_cases h : b = k
  · exact .inl ⟨congrArg UInt8.toNat h, by rw [if_pos h]⟩
  · exact .inr ⟨fun hn => h (UInt8.toNat_inj.mp hn), by rw [if_neg h]⟩

/-- Behind E0 the second byte avoids what two bytes can hold, behind ED the surrogates. -/
theorem follow?_three {lead : UInt8} (h : 0xE0 ≤ lead.toNat ∧ lead.toNat ≤ 0xEF) :
    ∃ low high, Lead.follow? lead = some (low, high, 2) ∧
      (lead.toNat = 0xE0 ∧ low.toNat = 0xA0 ∨ lead.toNat ≠ 0xE0 ∧ low.toNat = 0x80) ∧
      (lead.toNat = 0xED ∧ high.toNat = 0x9F ∨ lead.toNat ≠ 0xED ∧ high.toNat = 0xBF) := by
  have hfollow : Lead.follow? lead =
      some (if lead = 0xE0 then 0xA0 else 0x80, if lead = 0xED then 0x9F else 0xBF, 2) := by
    unfold Lead.follow?
    simp only [UInt8.le_iff_toNat_le, ← UInt8.toNat_inj, UInt8.toNat_ofNat]
    grind
  exact ⟨_, _, hfollow, toNat_ite_cases lead 0xE0 0xA0 0x80,
    toNat_ite_cases lead 0xED 0x9F 0xBF⟩

/-- Behind F0 the second byte avoids what three bytes can hold, behind F4 what is no code point. -/
theorem follow?_four {lead : UInt8} (h : 0xF0 ≤ lead.toNat ∧ lead.toNat ≤ 0xF4) :
    ∃ low high, Lead.follow? lead = some (low, high, 3) ∧
      (lead.toNat = 0xF0 ∧ low.toNat = 0x90 ∨ lead.toNat ≠ 0xF0 ∧ low.toNat = 0x80) ∧
      (lead.toNat = 0xF4 ∧ high.toNat = 0x8F ∨ lead.toNat ≠ 0xF4 ∧ high.toNat = 0xBF) := by
  have hfollow : Lead.follow? lead =
      some (if lead = 0xF0 then 0x90 else 0x80, if lead = 0xF4 then 0x8F else 0xBF, 3) := by
    unfold Lead.follow?
    simp only [UInt8.le_iff_toNat_le, ← UInt8.toNat_inj, UInt8.toNat_ofNat]
    grind
  exact ⟨_, _, hfollow, toNat_ite_cases lead 0xF0 0x90 0x80,
    toNat_ite_cases lead 0xF4 0x8F 0xBF⟩

/-- Other bytes beyond ASCII start no character. -/
theorem lead_range_of_follow? {lead : UInt8} {f : UInt8 × UInt8 × Nat}
    (h : Lead.follow? lead = some f) :
    (0xC2 ≤ lead.toNat ∧ lead.toNat ≤ 0xDF) ∨ (0xE0 ≤ lead.toNat ∧ lead.toNat ≤ 0xEF) ∨
      (0xF0 ≤ lead.toNat ∧ lead.toNat ≤ 0xF4) := by
  unfold Lead.follow? at h
  simp only [UInt8.le_iff_toNat_le, ← UInt8.toNat_inj, UInt8.toNat_ofNat] at h
  grind

theorem mapError_eq_ok_iff {ε ε' α : Type} {f : ε → ε'} {x : Except ε α} {a : α} :
    x.mapError f = .ok a ↔ x = .ok a := by
  cases x with
  | error e => exact ⟨nofun, nofun⟩
  | ok b => exact ⟨fun h => Except.ok.inj h ▸ rfl, fun h => Except.ok.inj h ▸ rfl⟩

theorem continuation_succ_eq_ok_iff {low high : UInt8} {bits count n : Nat}
    {bs rest : List UInt8} :
    continuation low high bits (count + 1) bs = .ok (n, rest) ↔
      ∃ b bs', bs = b :: bs' ∧ (low.toNat ≤ b.toNat ∧ b.toNat ≤ high.toNat) ∧
        continuation 0x80 0xBF (64 * bits + b.toNat % 64) count bs' = .ok (n, rest) := by
  cases bs with
  | nil => simp [continuation]
  | cons b bs =>
    rw [continuation]
    simp only [List.cons.injEq, exists_and_left, exists_eq_left', and_assoc]
    split
    · next h =>
      have hrange : low.toNat ≤ b.toNat ∧ b.toNat ≤ high.toNat := h
      rw [mapError_eq_ok_iff, payload]
      exact ⟨fun hrest => ⟨hrange.1, hrange.2, hrest⟩, fun hread => hread.2.2⟩
    · next h =>
      have hrange : ¬(low.toNat ≤ b.toNat ∧ b.toNat ≤ high.toNat) := h
      grind

/-- A further byte within the range of all. -/
theorem continuation_tail {bits count n : Nat} {b : UInt8} {bs rest : List UInt8}
    (hb : 0x80 ≤ b.toNat ∧ b.toNat ≤ 0xBF)
    (h : continuation 0x80 0xBF (64 * bits + b.toNat % 64) count bs = .ok (n, rest)) :
    continuation 0x80 0xBF bits (count + 1) (b :: bs) = .ok (n, rest) :=
  continuation_succ_eq_ok_iff.mpr ⟨b, bs, rfl, hb, h⟩

theorem continuation_zero_eq_ok_iff {low high : UInt8} {bits n : Nat} {bs rest : List UInt8} :
    continuation low high bits 0 bs = .ok (n, rest) ↔ bits = n ∧ bs = rest := by
  simp [continuation]

theorem character_eq_ok_iff_of_follow? {position : Nat} {lead low high : UInt8} {count : Nat}
    {bs rest : List UInt8} {c : Char} (h : Lead.follow? lead = some (low, high, count)) :
    character position lead bs = .ok (c, rest) ↔
      ∃ n, continuation low high (leadBits lead count) count bs = .ok (n, rest) ∧
        Char.ofNat n = c := by
  have hlead : ¬lead < 0x80 := by
    rw [UInt8.lt_iff_toNat_lt]
    have hrange := lead_range_of_follow? h
    simp only [UInt8.toNat_ofNat]
    omega
  rw [character, if_neg hlead, h]
  dsimp only
  split
  · next n rest' hcont =>
    rw [hcont]
    simp only [Except.ok.injEq, Prod.mk.injEq]
    constructor
    · rintro ⟨hc, hrest⟩
      exact ⟨n, ⟨rfl, hrest⟩, hc⟩
    · rintro ⟨m, ⟨rfl, hrest⟩, hc⟩
      exact ⟨hc, hrest⟩
  · next good cause hcont => simp [hcont]

/-- What is read as a character is its encoding. -/
theorem eq_encodeChar_append_of_character {position : Nat} {lead : UInt8} {bs rest : List UInt8}
    {c : Char} (h : character position lead bs = .ok (c, rest)) :
    lead :: bs = utf8EncodeChar c ++ rest := by
  by_cases hascii : lead < 0x80
  · have hlead : lead.toNat < 0x80 := hascii
    rw [character, if_pos hascii, Except.ok.injEq, Prod.mk.injEq] at h
    obtain ⟨rfl, rfl⟩ := h
    have hc := toNat_ofNat (n := lead.toNat) (by omega)
    rw [encodeChar_eq_one_iff.mpr ⟨by omega, hc.symm⟩, List.singleton_append]
  · cases hfollow : Lead.follow? lead with
    | none =>
      rw [character, if_neg hascii, hfollow] at h
      cases h
    | some f =>
      obtain ⟨low, high, count⟩ := f
      obtain ⟨n, hcont, rfl⟩ := (character_eq_ok_iff_of_follow? hfollow).mp h
      -- by the number of bytes; the limits of the second byte keep the code point in range
      rcases lead_range_of_follow? hfollow with hlead | hlead | hlead
      · cases (follow?_two hlead).symm.trans hfollow
        obtain ⟨b, bs, rfl, hb, hcont⟩ := continuation_succ_eq_ok_iff.mp hcont
        obtain ⟨hn, rfl⟩ := continuation_zero_eq_ok_iff.mp hcont
        simp only [UInt8.toNat_ofNat] at hb
        have hbits : leadBits lead 1 = lead.toNat % 32 := rfl
        have hc := toNat_ofNat (n := n) (by omega)
        have henc : utf8EncodeChar (Char.ofNat n) = [lead, b] := by
          rw [encodeChar_eq_two_iff, hc]
          omega
        rw [henc]
        rfl
      · obtain ⟨low', high', hlimits, hlow, hhigh⟩ := follow?_three hlead
        cases hlimits.symm.trans hfollow
        obtain ⟨b, bs, rfl, hb, hcont⟩ := continuation_succ_eq_ok_iff.mp hcont
        obtain ⟨d, bs, rfl, hd, hcont⟩ := continuation_succ_eq_ok_iff.mp hcont
        obtain ⟨hn, rfl⟩ := continuation_zero_eq_ok_iff.mp hcont
        simp only [UInt8.toNat_ofNat] at hd
        have hbits : leadBits lead 2 = lead.toNat % 16 := rfl
        have hc := toNat_ofNat (n := n) (by omega)
        have henc : utf8EncodeChar (Char.ofNat n) = [lead, b, d] := by
          rw [encodeChar_eq_three_iff, hc]
          omega
        rw [henc]
        rfl
      · obtain ⟨low', high', hlimits, hlow, hhigh⟩ := follow?_four hlead
        cases hlimits.symm.trans hfollow
        obtain ⟨b, bs, rfl, hb, hcont⟩ := continuation_succ_eq_ok_iff.mp hcont
        obtain ⟨d, bs, rfl, hd, hcont⟩ := continuation_succ_eq_ok_iff.mp hcont
        obtain ⟨e, bs, rfl, he, hcont⟩ := continuation_succ_eq_ok_iff.mp hcont
        obtain ⟨hn, rfl⟩ := continuation_zero_eq_ok_iff.mp hcont
        simp only [UInt8.toNat_ofNat] at hd he
        have hbits : leadBits lead 3 = lead.toNat % 8 := rfl
        have hc := toNat_ofNat (n := n) (by omega)
        have henc : utf8EncodeChar (Char.ofNat n) = [lead, b, d, e] := by
          rw [encodeChar_eq_four_iff, hc]
          omega
        rw [henc]
        rfl

/-- The encoding of a character is read as this character. -/
theorem character_of_encodeChar (position : Nat) (c : Char) (rest : List UInt8) :
    ∃ lead tail, utf8EncodeChar c = lead :: tail ∧
      character position lead (tail ++ rest) = .ok (c, rest) := by
  have hrange := toNat_range c
  -- one case for each number of bytes; each byte is read off the code point
  rcases exists_encodeChar_eq c with ⟨a, henc⟩ | ⟨a, b, henc⟩ | ⟨a, b, d, henc⟩ | ⟨a, b, d, e, henc⟩
  · obtain ⟨hc, ha⟩ := encodeChar_eq_one_iff.mp henc
    refine ⟨a, [], henc, ?_⟩
    have hascii : a < 0x80 := UInt8.lt_iff_toNat_lt.mpr (by simpa using ha ▸ hc)
    rw [character, if_pos hascii, ha, Char.ofNat_toNat]
    rfl
  · obtain ⟨hc, ha, hb⟩ := encodeChar_eq_two_iff.mp henc
    refine ⟨a, [b], henc, ?_⟩
    rw [character_eq_ok_iff_of_follow? (follow?_two (by omega))]
    refine ⟨c.toNat, ?_, Char.ofNat_toNat c⟩
    have hbits : leadBits a 1 = a.toNat % 32 := rfl
    refine continuation_tail (by omega) ?_
    exact continuation_zero_eq_ok_iff.mpr ⟨by omega, rfl⟩
  · obtain ⟨hc, ha, hb, hd⟩ := encodeChar_eq_three_iff.mp henc
    refine ⟨a, [b, d], henc, ?_⟩
    have hlead : 0xE0 ≤ a.toNat ∧ a.toNat ≤ 0xEF := by omega
    obtain ⟨low, high, hlimits, hlow, hhigh⟩ := follow?_three hlead
    rw [character_eq_ok_iff_of_follow? hlimits]
    refine ⟨c.toNat, ?_, Char.ofNat_toNat c⟩
    have hbits : leadBits a 2 = a.toNat % 16 := rfl
    refine continuation_succ_eq_ok_iff.mpr ⟨b, d :: rest, rfl, by omega, ?_⟩
    refine continuation_tail (by omega) ?_
    exact continuation_zero_eq_ok_iff.mpr ⟨by omega, rfl⟩
  · obtain ⟨hc, ha, hb, hd, he⟩ := encodeChar_eq_four_iff.mp henc
    refine ⟨a, [b, d, e], henc, ?_⟩
    have hlead : 0xF0 ≤ a.toNat ∧ a.toNat ≤ 0xF4 := by omega
    obtain ⟨low, high, hlimits, hlow, hhigh⟩ := follow?_four hlead
    rw [character_eq_ok_iff_of_follow? hlimits]
    refine ⟨c.toNat, ?_, Char.ofNat_toNat c⟩
    have hbits : leadBits a 3 = a.toNat % 8 := rfl
    refine continuation_succ_eq_ok_iff.mpr ⟨b, d :: e :: rest, rfl, by omega, ?_⟩
    refine continuation_tail (by omega) ?_
    refine continuation_tail (by omega) ?_
    exact continuation_zero_eq_ok_iff.mpr ⟨by omega, rfl⟩

/-! ### Reading a text -/

theorem decodeAt_nil (position : Nat) : decodeAt position [] = .ok [] := by
  rw [decodeAt]

theorem decodeAt_cons_of_character {position : Nat} {lead : UInt8} {bs rest : List UInt8} {c : Char}
    (h : character position lead bs = .ok (c, rest)) :
    decodeAt position (lead :: bs) =
      (decodeAt (position + 1 + Lead.followers lead) rest).map (c :: ·) := by
  rw [decodeAt]
  split
  · next e hc => rw [h] at hc; cases hc
  · next c' rest' hc =>
    rw [h] at hc
    cases hc
    rfl

theorem decodeAt_encode (position : Nat) (cs : List Char) :
    decodeAt position (encode cs) = .ok cs := by
  induction cs generalizing position with
  | nil => exact decodeAt_nil position
  | cons c cs ih =>
    obtain ⟨lead, tail, henc, hread⟩ := character_of_encodeChar position c (encode cs)
    rw [encode_cons, henc, List.cons_append, decodeAt_cons_of_character hread, ih]
    rfl

theorem eq_encode_of_decodeAt {position : Nat} {bs : List UInt8} {cs : List Char}
    (h : decodeAt position bs = .ok cs) : bs = encode cs := by
  -- a character may take several bytes, so the induction is on the number of bytes
  induction hn : bs.length using Nat.strongRecOn generalizing position bs cs with
  | ind n ih =>
    cases bs with
    | nil =>
      rw [decodeAt_nil] at h
      cases h
      rfl
    | cons lead bs =>
      cases hread : character position lead bs with
      | error e =>
        rw [decodeAt] at h
        split at h
        · cases h
        · next hc => rw [hread] at hc; cases hc
      | ok p =>
        obtain ⟨c, rest⟩ := p
        rw [decodeAt_cons_of_character hread] at h
        cases hrest : decodeAt (position + 1 + Lead.followers lead) rest with
        | error e => rw [hrest] at h; cases h
        | ok cs' =>
          rw [hrest] at h
          cases h
          have hlen := character_length hread
          rw [List.length_cons] at hn
          rw [eq_encodeChar_append_of_character hread, ih rest.length (by omega) hrest rfl,
            encode_cons]

/-- The bytes that decode to a text are its encoding. -/
theorem decode_eq_ok_iff {bs : List UInt8} {cs : List Char} :
    decode bs = .ok cs ↔ bs = encode cs :=
  ⟨eq_encode_of_decodeAt, fun h => h ▸ decodeAt_encode 0 cs⟩

theorem encode_injective {cs cs' : List Char} (h : encode cs = encode cs') : cs = cs' :=
  Except.ok.inj ((decode_eq_ok_iff.mpr rfl).symm.trans (decode_eq_ok_iff.mpr h))

/-- Bytes that encode no text do not decode. -/
theorem exists_decode_eq_error {bs : List UInt8} (h : ∀ cs, bs ≠ encode cs) :
    ∃ m, decode bs = .error m := by
  cases hread : decode bs with
  | error m => exact ⟨m, rfl⟩
  | ok cs => exact absurd (decode_eq_ok_iff.mp hread) (h cs)

end FixturePragmas.Text.Utf8
