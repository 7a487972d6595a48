import FixturePragmas.Proofs.Json.Lexeme

/-!
# Values in JSON, printed and read back

A value whose numbers are all integers is printed to a text that is read as this value, in either
style and whatever follows that cannot be a part of a number (`readValue_renderAt`); blanks around
it make no difference. So a printed text tells which value it stands for (`decode_renderAt`,
`renderAt_injective`). The reader is bounded by a number; the length of the text it reads is enough.
-/

namespace FixturePragmas.Json

open Text.Numeral (ofInt)

/-! ### Values that are read as they are printed -/

mutual

/-- Whether all numbers in a value are integers. -/
def isExact : Json → Bool
  | null => true
  | bool _ => true
  | integer _ => true
  | decimal _ => false
  | string _ => true
  | array vs => areExact vs
  | object ms => membersAreExact ms

/-- Whether all numbers in some values are integers. -/
def areExact : List Json → Bool
  | [] => true
  | v :: vs => isExact v && areExact vs

/-- Whether all numbers in the values of some members are integers. -/
def membersAreExact : List (String × Json) → Bool
  | [] => true
  | (_, v) :: ms => isExact v && membersAreExact ms

end

theorem areExact_iff {vs : List Json} : areExact vs = true ↔ ∀ v ∈ vs, v.isExact = true := by
  induction vs with
  | nil => simp [areExact]
  | cons v vs ih => rw [areExact, Bool.and_eq_true, ih, List.forall_mem_cons]

theorem membersAreExact_iff {ms : List (String × Json)} :
    membersAreExact ms = true ↔ ∀ m ∈ ms, m.2.isExact = true := by
  induction ms with
  | nil => simp [membersAreExact]
  | cons m ms ih => rw [membersAreExact, Bool.and_eq_true, ih, List.forall_mem_cons]

/-! ### Blanks -/

/-- Whether a text is made of blanks. -/
def Blanks (cs : List Char) : Prop := ∀ c ∈ cs, c = ' ' ∨ c = '\n' ∨ c = '\r' ∨ c = '\t'

instance (cs : List Char) : Decidable (Blanks cs) := List.decidableBAll _ cs

/-- Whether a character stands at the start of a value and not at its end. -/
def Starts (c : Char) : Prop := ¬Blanks [c] ∧ c ≠ ']'

instance (c : Char) : Decidable (Starts c) := inferInstanceAs (Decidable (_ ∧ _))

theorem skipBlanks_append {bs : List Char} (h : Blanks bs) (cs : List Char) :
    skipBlanks (bs ++ cs) = skipBlanks cs := by
  unfold skipBlanks
  exact List.dropWhile_append_of_pos fun c hc => decide_eq_true (h c hc)

theorem skipBlanks_cons {c : Char} (h : ¬Blanks [c]) (cs : List Char) :
    skipBlanks (c :: cs) = c :: cs := by
  have hc : ¬(c = ' ' ∨ c = '\n' ∨ c = '\r' ∨ c = '\t') := by simpa [Blanks] using h
  exact List.dropWhile_cons_of_neg (by simpa using hc)

theorem blanks_break (s : Style) (depth : Nat) : Blanks (s.break depth) := by
  intro c hc
  cases s with
  | line => exact absurd hc List.not_mem_nil
  | indented =>
    rcases List.mem_cons.mp hc with rfl | hc
    · exact .inr (.inl rfl)
    · exact .inl (List.eq_of_mem_replicate hc)

theorem exists_separator_eq (s : Style) (depth : Nat) :
    ∃ bs, s.separator depth = ',' :: bs ∧ Blanks bs := by
  cases s with
  | line => exact ⟨[' '], rfl, by simp [Blanks]⟩
  | indented => exact ⟨_, rfl, blanks_break .indented depth⟩

theorem starts_of_inNumber {c : Char} (h : inNumber c = true) : Starts c := by
  refine ⟨fun hc => ?_, ?_⟩
  · rcases hc c List.mem_cons_self with rfl | rfl | rfl | rfl <;> exact absurd h (by decide)
  · rintro rfl
    exact absurd h (by decide)

theorem exists_ofInt_eq_cons (n : Int) : ∃ c cs, ofInt n = c :: cs := by
  cases n with
  | ofNat n => exact List.exists_cons_of_ne_nil (Text.Numeral.isNumeral_digits n).1
  | negSucc n => exact ⟨_, _, rfl⟩

/-- What is printed for a value starts as a value does. -/
theorem exists_renderAt_eq_cons (s : Style) (depth : Nat) {v : Json} (hv : v.isExact = true) :
    ∃ c cs, renderAt s depth v = c :: cs ∧ Starts c := by
  cases v with
  | null => exact ⟨'n', _, rfl, by decide⟩
  | bool b =>
    cases b with
    | true => exact ⟨'t', _, rfl, by decide⟩
    | false => exact ⟨'f', _, rfl, by decide⟩
  | integer n =>
    obtain ⟨c, cs, hn⟩ := exists_ofInt_eq_cons n
    exact ⟨c, cs, hn, starts_of_inNumber (inNumber_of_mem_ofInt (hn ▸ List.mem_cons_self))⟩
  | decimal text => exact absurd hv Bool.false_ne_true
  | string text => exact ⟨'"', _, rfl, by decide⟩
  | array vs =>
    cases vs with
    | nil => exact ⟨'[', _, rfl, by decide⟩
    -- the empty list and a longer one are printed by different equations
    | cons v vs => exact ⟨'[', _, rfl, by decide⟩
  | object ms =>
    cases ms with
    | nil => exact ⟨Char.ofNat 0x7B, _, rfl, by decide⟩
    | cons m ms => exact ⟨Char.ofNat 0x7B, _, rfl, by decide⟩

/-! ### One step of the reader -/

theorem readValue_blanks {bs : List Char} (h : Blanks bs) (bound : Nat) (cs : List Char) :
    readValue bound (bs ++ cs) = readValue bound cs := by
  cases bound with
  | zero => rfl
  | succ bound => rw [readValue, readValue, skipBlanks_append h]

theorem readItems_blanks {bs : List Char} (h : Blanks bs) (bound : Nat) (cs : List Char) :
    readItems bound (bs ++ cs) = readItems bound cs := by
  cases bound with
  | zero => rfl
  | succ bound => rw [readItems, readItems, readValue_blanks h]

theorem readMembers_blanks {bs : List Char} (h : Blanks bs) (bound : Nat) (cs : List Char) :
    readMembers bound (bs ++ cs) = readMembers bound cs := by
  cases bound with
  | zero => rfl
  | succ bound => rw [readMembers, readMembers, skipBlanks_append h]

theorem readValue_number {c : Char} (h : inNumber c = true) (bound : Nat) (cs : List Char) :
    readValue (bound + 1) (c :: cs) =
      (number? ((c :: cs).takeWhile inNumber)).map fun v =>
        (v, (c :: cs).dropWhile inNumber) := by
  -- a number starts like no other value, so each case of the reader but the last two is excluded
  have hother : ∀ d : Char, inNumber d = false → c ≠ d := by
    rintro d hd rfl
    rw [hd] at h
    exact Bool.false_ne_true h
  rw [readValue, skipBlanks_cons (starts_of_inNumber h).1]
  split
  · next heq => exact absurd (List.cons.inj heq).1 (hother _ (by decide))
  · next heq => exact absurd (List.cons.inj heq).1 (hother _ (by decide))
  · next heq => exact absurd (List.cons.inj heq).1 (hother _ (by decide))
  · next heq => exact absurd (List.cons.inj heq).1 (hother _ (by decide))
  · next heq => exact absurd (List.cons.inj heq).1 (hother _ (by decide))
  · next heq =>
    obtain ⟨rfl, rfl⟩ := List.cons.inj heq
    rw [if_neg (hother _ (by decide))]
  · next heq => exact absurd heq (List.cons_ne_nil _ _)

theorem readValue_quotedText (bound : Nat) (s : String) (rest : List Char) :
    readValue (bound + 1) (quotedText s ++ rest) = some (string s, rest) := by
  have hread := readQuoted_quotedText s rest
  rw [quotedText, List.cons_append, List.cons_append, List.append_assoc, List.singleton_append]
  show (readQuoted _ _ _).map _ = _
  rw [hread, Option.map_some, String.ofList_toList]

theorem readValue_bracket (bound : Nat) (cs : List Char) :
    readValue (bound + 1) ('[' :: cs) =
      match skipBlanks cs with
      | ']' :: rest => some (array [], rest)
      | rest => (readItems bound rest).map fun vs => (array vs.1, vs.2) := rfl

theorem readValue_brace (bound : Nat) (cs : List Char) :
    readValue (bound + 1) (Char.ofNat 0x7B :: cs) =
      match skipBlanks cs with
      | [] => none
      | d :: rest =>
        if d = Char.ofNat 0x7D then some (object [], rest)
        else (readMembers bound (d :: rest)).map fun ms => (object ms.1, ms.2) := rfl

theorem readValue_array_nil (bound : Nat) (rest : List Char) :
    readValue (bound + 1) ('[' :: ']' :: rest) = some (array [], rest) := by
  rw [readValue_bracket, skipBlanks_cons (by decide)]
  rfl

theorem readValue_array {bs : List Char} (hbs : Blanks bs) {c : Char} (hc : Starts c)
    (bound : Nat) (cs : List Char) :
    readValue (bound + 1) ('[' :: (bs ++ c :: cs)) =
      (readItems bound (c :: cs)).map fun vs => (array vs.1, vs.2) := by
  rw [readValue_bracket, skipBlanks_append hbs, skipBlanks_cons hc.1]
  split
  · next heq => exact absurd (List.cons.inj heq).1 hc.2
  · rfl

theorem readValue_object_nil (bound : Nat) (rest : List Char) :
    readValue (bound + 1) (Char.ofNat 0x7B :: Char.ofNat 0x7D :: rest) =
      some (object [], rest) := by
  rw [readValue_brace, skipBlanks_cons (by decide)]
  exact if_pos rfl

theorem readValue_object {bs : List Char} (hbs : Blanks bs) (bound : Nat) (cs : List Char) :
    readValue (bound + 1) (Char.ofNat 0x7B :: (bs ++ '"' :: cs)) =
      (readMembers bound ('"' :: cs)).map fun ms => (object ms.1, ms.2) := by
  rw [readValue_brace, skipBlanks_append hbs, skipBlanks_cons (by decide)]
  exact if_neg (by decide)

section

variable {bound : Nat} {cs bs tail : List Char} {v : Json}

theorem readItems_last (hv : readValue bound cs = some (v, bs ++ ']' :: tail)) (hbs : Blanks bs) :
    readItems (bound + 1) cs = some ([v], tail) := by
  rw [readItems, hv, Option.bind_some, skipBlanks_append hbs, skipBlanks_cons (by decide)]
  rfl

theorem readItems_more (hv : readValue bound cs = some (v, ',' :: tail)) :
    readItems (bound + 1) cs = (readItems bound tail).map fun vs => (v :: vs.1, vs.2) := by
  rw [readItems, hv, Option.bind_some, skipBlanks_cons (by decide)]
  rfl

theorem readMembers_quotedText (k : String) (h : readValue bound cs = some (v, tail)) :
    readMembers (bound + 1) (quotedText k ++ ':' :: ' ' :: cs) =
      match skipBlanks tail with
      | [] => none
      | d :: rest =>
        if d = ',' then (readMembers bound rest).map fun ms => ((k, v) :: ms.1, ms.2)
        else if d = Char.ofNat 0x7D then some ([(k, v)], rest)
        else none := by
  have hread := readQuoted_quotedText k (':' :: ' ' :: cs)
  rw [quotedText, List.cons_append, List.cons_append, List.append_assoc, List.singleton_append,
    readMembers, skipBlanks_cons (by decide)]
  show (readQuoted _ _ _).bind _ = _
  rw [hread, Option.bind_some]
  dsimp only
  rw [skipBlanks_cons (by decide), String.ofList_toList]
  show (readValue bound ([' '] ++ cs)).bind _ = _
  rw [readValue_blanks (by decide), h]
  rfl

theorem readMembers_last (k : String)
    (hv : readValue bound cs = some (v, bs ++ Char.ofNat 0x7D :: tail)) (hbs : Blanks bs) :
    readMembers (bound + 1) (quotedText k ++ ':' :: ' ' :: cs) = some ([(k, v)], tail) := by
  rw [readMembers_quotedText k hv, skipBlanks_append hbs, skipBlanks_cons (by decide)]
  rfl

theorem readMembers_more (k : String)
    (hv : readValue bound cs = some (v, ',' :: tail)) :
    readMembers (bound + 1) (quotedText k ++ ':' :: ' ' :: cs) =
      (readMembers bound tail).map fun ms => ((k, v) :: ms.1, ms.2) := by
  rw [readMembers_quotedText k hv, skipBlanks_cons (by decide)]
  rfl

end

/-! ### Whole values -/

/-- Whether what follows a value cannot be a part of a number. -/
def EndsNumber (rest : List Char) : Prop := ∀ c ∈ rest.head?, inNumber c = false

theorem endsNumber_cons {c : Char} (h : inNumber c = false) (cs : List Char) :
    EndsNumber (c :: cs) := by
  intro d hd
  rwa [← Option.some.inj hd]

theorem endsNumber_append {bs cs : List Char} (hbs : Blanks bs) (hcs : EndsNumber cs) :
    EndsNumber (bs ++ cs) := by
  cases bs with
  | nil => exact hcs
  | cons b bs =>
    refine endsNumber_cons ?_ _
    rcases hbs b List.mem_cons_self with rfl | rfl | rfl | rfl <;> rfl

theorem readValue_ofInt (n : Int) (bound : Nat) {rest : List Char} (hrest : EndsNumber rest) :
    readValue (bound + 1) (ofInt n ++ rest) = some (integer n, rest) := by
  have hall : ∀ c ∈ ofInt n, inNumber c = true := fun c hc => inNumber_of_mem_ofInt hc
  have hend : rest.takeWhile inNumber = [] ∧ rest.dropWhile inNumber = rest := by
    cases rest with
    | nil => exact ⟨rfl, rfl⟩
    | cons c cs =>
      have hc : ¬inNumber c = true := by simp [hrest c rfl]
      exact ⟨List.takeWhile_cons_of_neg hc, List.dropWhile_cons_of_neg hc⟩
  have htake : (ofInt n ++ rest).takeWhile inNumber = ofInt n := by
    rw [List.takeWhile_append_of_pos hall, hend.1, List.append_nil]
  have hdrop : (ofInt n ++ rest).dropWhile inNumber = rest := by
    rw [List.dropWhile_append_of_pos hall, hend.2]
  obtain ⟨c, cs, hn⟩ := exists_ofInt_eq_cons n
  rw [hn, List.cons_append] at htake hdrop ⊢
  rw [readValue_number (hall c (hn ▸ List.mem_cons_self)), htake, hdrop, ← hn, number?_ofInt,
    Option.map_some]

theorem readValue_null (bound : Nat) (rest : List Char) :
    readValue (bound + 1) ('n' :: 'u' :: 'l' :: 'l' :: rest) = some (null, rest) := rfl

theorem readValue_true (bound : Nat) (rest : List Char) :
    readValue (bound + 1) ('t' :: 'r' :: 'u' :: 'e' :: rest) = some (bool true, rest) := rfl

theorem readValue_false (bound : Nat) (rest : List Char) :
    readValue (bound + 1) ('f' :: 'a' :: 'l' :: 's' :: 'e' :: rest) = some (bool false, rest) := rfl

/-- The text of the items of an array. -/
def itemsText (s : Style) (depth : Nat) : List Json → List Char
  | [] => []
  | v :: vs => renderAt s depth v ++ renderItems s depth vs

/-- The text of the members of an object. -/
def membersText (s : Style) (depth : Nat) : List (String × Json) → List Char
  | [] => []
  | (k, v) :: ms =>
    quotedText k ++ ':' :: ' ' :: (renderAt s depth v ++ renderMembers s depth ms)

theorem renderItems_eq (s : Style) (depth : Nat) (v : Json) (vs : List Json) :
    renderItems s depth (v :: vs) = s.separator depth ++ itemsText s depth (v :: vs) := by
  rw [renderItems, itemsText, List.append_assoc]

theorem renderMembers_eq (s : Style) (depth : Nat) (m : String × Json)
    (ms : List (String × Json)) :
    renderMembers s depth (m :: ms) = s.separator depth ++ membersText s depth (m :: ms) := by
  obtain ⟨k, v⟩ := m
  rw [renderMembers, membersText]
  simp

theorem renderAt_array (s : Style) (depth : Nat) (v : Json) (vs : List Json) (rest : List Char) :
    renderAt s depth (array (v :: vs)) ++ rest =
      '[' :: (s.break (depth + 1) ++ (itemsText s (depth + 1) (v :: vs)
        ++ (s.break depth ++ ']' :: rest))) := by
  rw [renderAt, itemsText]
  simp

theorem renderAt_object (s : Style) (depth : Nat) (m : String × Json) (ms : List (String × Json))
    (rest : List Char) :
    renderAt s depth (object (m :: ms)) ++ rest =
      Char.ofNat 0x7B :: (s.break (depth + 1) ++ (membersText s (depth + 1) (m :: ms)
        ++ (s.break depth ++ Char.ofNat 0x7D :: rest))) := by
  obtain ⟨k, v⟩ := m
  rw [renderAt, membersText]
  simp

theorem length_renderAt_array (s : Style) (depth : Nat) (v : Json) (vs : List Json) :
    (itemsText s (depth + 1) (v :: vs)).length + 2 ≤
      (renderAt s depth (array (v :: vs))).length := by
  have htext := congrArg List.length (renderAt_array s depth v vs [])
  simp only [List.append_nil, List.length_cons, List.length_append] at htext
  omega

theorem length_renderAt_object (s : Style) (depth : Nat) (m : String × Json)
    (ms : List (String × Json)) :
    (membersText s (depth + 1) (m :: ms)).length + 2 ≤
      (renderAt s depth (object (m :: ms))).length := by
  have htext := congrArg List.length (renderAt_object s depth m ms [])
  simp only [List.append_nil, List.length_cons, List.length_append] at htext
  omega

mutual

/-- What is printed for a value is read as this value. -/
theorem readValue_renderAt (s : Style) (depth bound : Nat) {rest : List Char}
    (hrest : EndsNumber rest) : ∀ v : Json, v.isExact = true →
      (renderAt s depth v).length ≤ bound →
      readValue bound (renderAt s depth v ++ rest) = some (v, rest)
  | v, hv, hbound => by
    obtain ⟨c, cs, hc, -⟩ := exists_renderAt_eq_cons s depth hv
    -- the text is not empty, so there is a step left
    obtain ⟨bound, rfl⟩ : ∃ k, bound = k + 1 := by
      rw [hc, List.length_cons] at hbound
      exact ⟨bound - 1, by omega⟩
    cases v with
    | null => exact readValue_null bound rest
    | bool b =>
      cases b with
      | true => exact readValue_true bound rest
      | false => exact readValue_false bound rest
    | integer n => exact readValue_ofInt n bound hrest
    | decimal _ => exact absurd hv Bool.false_ne_true
    | string t => exact readValue_quotedText bound t rest
    | array vs =>
      cases vs with
      | nil => exact readValue_array_nil bound rest
      | cons v vs =>
        -- the two brackets are what is left over of the bound
        have hlength := length_renderAt_array s depth v vs
        have hitems := readItems_itemsText s (depth + 1) bound (blanks_break s depth) rest
          (v :: vs) (List.cons_ne_nil v vs) hv (by omega)
        obtain ⟨c, cs, hc, hstarts⟩ := exists_renderAt_eq_cons s (depth + 1)
          (Bool.and_eq_true_iff.mp hv).1
        rw [renderAt_array]
        -- the first character of the first item shows that the array is not empty
        rw [itemsText, hc, List.cons_append, List.cons_append] at hitems ⊢
        rw [readValue_array (blanks_break s (depth + 1)) hstarts, hitems, Option.map_some]
    | object ms =>
      cases ms with
      | nil => exact readValue_object_nil bound rest
      | cons m ms =>
        have hlength := length_renderAt_object s depth m ms
        -- the members start with the quote of a name, which shows that the object is not empty
        have hmembers := readMembers_membersText s (depth + 1) bound (blanks_break s depth) rest
          (m :: ms) (List.cons_ne_nil m ms) hv (by omega)
        rw [renderAt_object]
        rw [membersText, quotedText, List.cons_append, List.cons_append, List.cons_append]
          at hmembers ⊢
        rw [readValue_object (blanks_break s (depth + 1)), hmembers, Option.map_some]

theorem readItems_itemsText (s : Style) (depth bound : Nat) {bs : List Char} (hbs : Blanks bs)
    (rest : List Char) : ∀ vs : List Json, vs ≠ [] → areExact vs = true →
      (itemsText s depth vs).length < bound →
      readItems bound (itemsText s depth vs ++ (bs ++ ']' :: rest)) = some (vs, rest)
  | [], hne, _, _ => absurd rfl hne
  | v :: vs, _, hall, hbound => by
    have hv : v.isExact = true := (Bool.and_eq_true_iff.mp hall).1
    obtain ⟨bound, rfl⟩ : ∃ k, bound = k + 1 := ⟨bound - 1, by omega⟩
    rw [itemsText, List.length_append] at hbound
    cases vs with
    | nil =>
      -- what follows an item, a bracket or a comma, ends a number
      have hend : EndsNumber (bs ++ ']' :: rest) := endsNumber_append hbs (endsNumber_cons rfl rest)
      have hvalue := readValue_renderAt s depth bound hend v hv (by omega)
      rw [itemsText, renderItems, List.append_nil]
      exact readItems_last hvalue hbs
    | cons w ws =>
      -- the separator is a comma and blanks: the comma ends the item, the blanks are skipped
      obtain ⟨bs', hsep, hbs'⟩ := exists_separator_eq s depth
      rw [renderItems_eq, hsep, List.length_append, List.length_cons] at hbound
      have hitems := readItems_itemsText s depth bound hbs rest (w :: ws) (List.cons_ne_nil w ws)
        (Bool.and_eq_true_iff.mp hall).2 (by omega)
      have hend : EndsNumber (',' :: (bs' ++ (itemsText s depth (w :: ws)
          ++ (bs ++ ']' :: rest)))) := endsNumber_cons rfl _
      have hvalue := readValue_renderAt s depth bound hend v hv (by omega)
      rw [itemsText, renderItems_eq, hsep, List.append_assoc, List.cons_append, List.cons_append,
        List.append_assoc, readItems_more hvalue, readItems_blanks hbs', hitems, Option.map_some]

theorem readMembers_membersText (s : Style) (depth bound : Nat) {bs : List Char} (hbs : Blanks bs)
    (rest : List Char) : ∀ ms : List (String × Json), ms ≠ [] → membersAreExact ms = true →
      (membersText s depth ms).length < bound →
      readMembers bound (membersText s depth ms ++ (bs ++ Char.ofNat 0x7D :: rest)) =
        some (ms, rest)
  | [], hne, _, _ => absurd rfl hne
  -- as for items, with a name before each
  | (k, v) :: ms, _, hall, hbound => by
    have hv : v.isExact = true := (Bool.and_eq_true_iff.mp hall).1
    obtain ⟨bound, rfl⟩ : ∃ k, bound = k + 1 := ⟨bound - 1, by omega⟩
    rw [membersText, List.length_append, List.length_cons, List.length_cons,
      List.length_append] at hbound
    cases ms with
    | nil =>
      have hend : EndsNumber (bs ++ Char.ofNat 0x7D :: rest) :=
        endsNumber_append hbs (endsNumber_cons rfl rest)
      have hvalue := readValue_renderAt s depth bound hend v hv (by omega)
      rw [membersText, renderMembers, List.append_nil, List.append_assoc, List.cons_append,
        List.cons_append]
      exact readMembers_last k hvalue hbs
    | cons m ms =>
      obtain ⟨bs', hsep, hbs'⟩ := exists_separator_eq s depth
      rw [renderMembers_eq, hsep, List.length_append, List.length_cons] at hbound
      have hmembers := readMembers_membersText s depth bound hbs rest (m :: ms)
        (List.cons_ne_nil m ms) (Bool.and_eq_true_iff.mp hall).2 (by omega)
      have hend : EndsNumber (',' :: (bs' ++ (membersText s depth (m :: ms)
          ++ (bs ++ Char.ofNat 0x7D :: rest)))) := endsNumber_cons rfl _
      have hvalue := readValue_renderAt s depth bound hend v hv (by omega)
      rw [membersText, renderMembers_eq, hsep]
      simp only [List.append_assoc, List.cons_append]
      rw [readMembers_more k hvalue, readMembers_blanks hbs', hmembers, Option.map_some]

end

/-- A printed value, and blanks behind it, is decoded as the value. -/
theorem decode_renderAt (s : Style) {v : Json} (hv : v.isExact = true) {bs : List Char}
    (hbs : Blanks bs) : decode (renderAt s 0 v ++ bs) = some v := by
  have hend : EndsNumber bs := by
    have hnil : EndsNumber [] := nofun
    have happend := endsNumber_append hbs hnil
    rwa [List.append_nil] at happend
  have hskip : skipBlanks bs = [] := by
    have happend := skipBlanks_append hbs []
    rwa [List.append_nil] at happend
  have hlength : (renderAt s 0 v).length ≤ 2 * (renderAt s 0 v ++ bs).length + 2 := by
    rw [List.length_append]
    omega
  rw [decode, readValue_renderAt s 0 _ hend v hv hlength]
  exact if_pos hskip

/-- Values that are printed to the same text are the same. -/
theorem renderAt_injective (s : Style) {v w : Json} (hv : v.isExact = true) (hw : w.isExact = true)
    (h : renderAt s 0 v = renderAt s 0 w) : v = w := by
  have hblanks : Blanks [] := nofun
  exact Option.some.inj ((decode_renderAt s hv hblanks).symm.trans
    (h ▸ decode_renderAt s hw hblanks))

end FixturePragmas.Json
