import FixturePragmas.Proofs.Json.RoundTrip
import FixturePragmas.Proofs.Terminal

/-!
# JSON is printed in ASCII

Whatever characters the texts in a value have, the value is printed in characters of ASCII that
show, blanks and line ends (`asciiText_renderAt`). So there is no control sequence in a printed
value, and taking control sequences out of it leaves it as it is (`strip_renderAt_append`).
-/

namespace FixturePragmas

namespace Json

open Text (hexDigits)
open Text.Numeral (ofInt)

/-- Whether a character is a line end, a blank or a character of ASCII that shows. -/
def IsAscii (c : Char) : Prop := c = '\n' ∨ 0x20 ≤ c.toNat ∧ c.toNat < 0x7F

instance (c : Char) : Decidable (IsAscii c) := inferInstanceAs (Decidable (_ ∨ _))

/-- Whether a text is made of such characters. -/
def AsciiText (cs : List Char) : Prop := ∀ c ∈ cs, IsAscii c

instance (cs : List Char) : Decidable (AsciiText cs) := List.decidableBAll _ cs

theorem asciiText_nil : AsciiText [] := nofun

@[simp] theorem asciiText_cons {c : Char} {cs : List Char} :
    AsciiText (c :: cs) ↔ IsAscii c ∧ AsciiText cs := List.forall_mem_cons

@[simp] theorem asciiText_append {cs ds : List Char} :
    AsciiText (cs ++ ds) ↔ AsciiText cs ∧ AsciiText ds := List.forall_mem_append

/-! ### Lexemes -/

theorem asciiText_hexDigits (width n : Nat) : AsciiText (hexDigits width n) := by
  have hdigit : ∀ w : Fin 16, IsAscii (Nat.digitChar w.val) := by decide
  induction width generalizing n with
  | zero => exact asciiText_nil
  | succ width ih =>
    rw [hexDigits, asciiText_append, asciiText_cons]
    exact ⟨ih (n / 16), hdigit ⟨n % 16, Nat.mod_lt n (by omega)⟩, asciiText_nil⟩

theorem asciiText_unitEscape (n : Nat) : AsciiText (unitEscape n) := by
  rw [unitEscape, asciiText_cons, asciiText_cons]
  exact ⟨by decide, by decide, asciiText_hexDigits 4 n⟩

theorem asciiText_quotedChar (c : Char) : AsciiText (quotedChar c) := by
  unfold quotedChar
  -- the seven characters with an escape of their own come first
  iterate 7
    split
    · decide
  split
  · next hplain => exact asciiText_cons.mpr ⟨.inr hplain, asciiText_nil⟩
  split
  · exact asciiText_unitEscape _
  · exact asciiText_append.mpr ⟨asciiText_unitEscape _, asciiText_unitEscape _⟩

theorem asciiText_quotedText (s : String) : AsciiText (quotedText s) := by
  rw [quotedText, asciiText_append, asciiText_cons]
  refine ⟨⟨by decide, fun c hc => ?_⟩, by decide⟩
  obtain ⟨d, -, hd⟩ := List.mem_flatMap.mp hc
  exact asciiText_quotedChar d c hd

theorem isAscii_of_isAsciiDigit {c : Char} (h : Text.isAsciiDigit c = true) : IsAscii c := by
  simp only [Text.isAsciiDigit, decide_eq_true_eq, Char.le_def, UInt32.le_iff_toNat_le] at h
  have hle : 48 ≤ c.toNat ∧ c.toNat ≤ 57 := h
  exact .inr (by omega)

theorem asciiText_ofInt (n : Int) : AsciiText (ofInt n) := by
  have hdigits : ∀ m, AsciiText (Text.Numeral.digits m) := fun m c hc =>
    isAscii_of_isAsciiDigit ((Text.Numeral.isNumeral_digits m).2 c hc)
  cases n with
  | ofNat n => exact hdigits n
  | negSucc n => exact asciiText_cons.mpr ⟨by decide, hdigits (n + 1)⟩

theorem asciiText_break (s : Style) (depth : Nat) : AsciiText (s.break depth) := by
  cases s with
  | line => exact asciiText_nil
  | indented =>
    refine asciiText_cons.mpr ⟨by decide, fun c hc => ?_⟩
    rw [List.eq_of_mem_replicate hc]
    decide

theorem asciiText_separator (s : Style) (depth : Nat) : AsciiText (s.separator depth) := by
  cases s with
  | line => exact (by decide : AsciiText [',', ' '])
  | indented => exact asciiText_cons.mpr ⟨by decide, asciiText_break .indented depth⟩

/-! ### Values -/

mutual

/-- A value is printed in ASCII. -/
theorem asciiText_renderAt (s : Style) (depth : Nat) : ∀ v : Json, v.isExact = true →
    AsciiText (renderAt s depth v)
  | v, hv => by
    cases v with
    | null => exact (by decide : AsciiText "null".toList)
    | bool b =>
      cases b with
      | true => exact (by decide : AsciiText "true".toList)
      | false => exact (by decide : AsciiText "false".toList)
    | integer n => exact asciiText_ofInt n
    | decimal _ => exact absurd hv Bool.false_ne_true
    | string t => exact asciiText_quotedText t
    | array vs =>
      cases vs with
      | nil => exact (by decide : AsciiText ['[', ']'])
      | cons v vs =>
        obtain ⟨hv, hvs⟩ := Bool.and_eq_true_iff.mp hv
        have hitems : AsciiText (itemsText s (depth + 1) (v :: vs)) := asciiText_append.mpr
          ⟨asciiText_renderAt s (depth + 1) v hv, asciiText_renderItems s (depth + 1) vs hvs⟩
        rw [← List.append_nil (renderAt s depth _), renderAt_array]
        simp only [asciiText_append, asciiText_cons]
        exact ⟨by decide, asciiText_break s (depth + 1), hitems, asciiText_break s depth,
          by decide, asciiText_nil⟩
    | object ms =>
      cases ms with
      | nil => exact (by decide : AsciiText [Char.ofNat 0x7B, Char.ofNat 0x7D])
      | cons m ms =>
        obtain ⟨k, v⟩ := m
        obtain ⟨hv, hms⟩ := Bool.and_eq_true_iff.mp hv
        have hmembers : AsciiText (renderAt s (depth + 1) v ++ renderMembers s (depth + 1) ms) :=
          asciiText_append.mpr
            ⟨asciiText_renderAt s (depth + 1) v hv, asciiText_renderMembers s (depth + 1) ms hms⟩
        rw [← List.append_nil (renderAt s depth _), renderAt_object, membersText]
        simp only [asciiText_append, asciiText_cons] at hmembers ⊢
        exact ⟨by decide, asciiText_break s (depth + 1), ⟨asciiText_quotedText k, by decide,
          by decide, hmembers⟩, asciiText_break s depth, by decide, asciiText_nil⟩

theorem asciiText_renderItems (s : Style) (depth : Nat) : ∀ vs : List Json, areExact vs = true →
    AsciiText (renderItems s depth vs)
  | [], _ => asciiText_nil
  | v :: vs, hall => by
    obtain ⟨hv, hvs⟩ := Bool.and_eq_true_iff.mp hall
    rw [renderItems, asciiText_append, asciiText_append]
    exact ⟨⟨asciiText_separator s depth, asciiText_renderAt s depth v hv⟩,
      asciiText_renderItems s depth vs hvs⟩

theorem asciiText_renderMembers (s : Style) (depth : Nat) : ∀ ms : List (String × Json),
    membersAreExact ms = true → AsciiText (renderMembers s depth ms)
  | [], _ => asciiText_nil
  | (k, v) :: ms, hall => by
    obtain ⟨hv, hms⟩ := Bool.and_eq_true_iff.mp hall
    simp only [renderMembers, asciiText_append]
    exact ⟨⟨⟨⟨asciiText_separator s depth, asciiText_quotedText k⟩, by decide⟩,
      asciiText_renderAt s depth v hv⟩, asciiText_renderMembers s depth ms hms⟩

end

end Json

/-! ### Control sequences -/

theorem Json.strip_renderAt_append (s : Json.Style) (depth : Nat) {v : Json}
    (hv : v.isExact = true) {cs : List Char} (hcs : Json.AsciiText cs) :
    Terminal.strip (Json.renderAt s depth v ++ cs) = Json.renderAt s depth v ++ cs := by
  have htext := Json.asciiText_append.mpr ⟨Json.asciiText_renderAt s depth v hv, hcs⟩
  exact Terminal.strip_eq_self fun h => absurd (htext _ h) (by decide)

end FixturePragmas
