import FixturePragmas.Text.CodePoints

/-!
# White space

The white space of this library is that of Unicode together with the four information separators
U+001C to U+001F. Text is trimmed on lists of characters; `trimStart`, `trimEnd` and `trim` drop
exactly the blank characters at the ends.
-/

namespace FixturePragmas.Text

/-- The code points of white space. -/
def blankRanges : List (Nat × Nat) :=
  [(0x9, 0xD), (0x1C, 0x20), (0x85, 0x85), (0xA0, 0xA0), (0x1680, 0x1680), (0x2000, 0x200A),
   (0x2028, 0x2029), (0x202F, 0x202F), (0x205F, 0x205F), (0x3000, 0x3000)]

/-- Whether `c` is white space. -/
def isBlank (c : Char) : Bool := inRanges blankRanges c

/-- The text without the white space it starts with. -/
def trimStart (cs : List Char) : List Char := cs.dropWhile isBlank

/-- The text without the white space it ends with. -/
def trimEnd (cs : List Char) : List Char := (cs.reverse.dropWhile isBlank).reverse

/-- The text without the white space at its two ends. -/
def trim (cs : List Char) : List Char := trimEnd (trimStart cs)

theorem trimStart_length_le (cs : List Char) : (trimStart cs).length ≤ cs.length := by
  simpa [trimStart] using (List.dropWhile_suffix isBlank).length_le

/-! ### Texts of white space -/

/-- Whether a text, which may be empty, is nothing but white space. -/
def Blank (w : List Char) : Prop := ∀ c ∈ w, isBlank c = true

theorem blank_nil : Blank [] := fun _ hc => absurd hc List.not_mem_nil

theorem blank_singleton {c : Char} (h : isBlank c = true) : Blank [c] := by
  intro d hd
  rw [List.mem_singleton.mp hd]
  exact h

theorem blank_space : Blank [' '] := blank_singleton rfl

theorem Blank.not_mem {w : List Char} (hw : Blank w) {c : Char} (hc : isBlank c = false) :
    c ∉ w := by
  intro h
  rw [hw c h] at hc
  cases hc

@[simp] theorem trimStart_blank_append {w : List Char} (hw : Blank w) (cs : List Char) :
    trimStart (w ++ cs) = trimStart cs :=
  List.dropWhile_append_of_pos hw

@[simp] theorem trimStart_cons_of_not_blank {c : Char} (hc : isBlank c = false) (cs : List Char) :
    trimStart (c :: cs) = c :: cs := by
  simp [trimStart, hc]

/-- Behind white space, a text that is trimmed starts with what is none. -/
theorem eq_of_mem_head?_trimStart {w : List Char} (hw : Blank w) {c : Char} (hc : isBlank c = false)
    {rest : List Char} {d : Char} (hd : d ∈ (trimStart (w ++ c :: rest)).head?) : d = c := by
  rw [trimStart_blank_append hw, trimStart_cons_of_not_blank hc, List.head?_cons,
    Option.mem_some] at hd
  exact hd.symm

/-- Trimming stops at a character that is no white space. -/
theorem not_blank_of_mem_head?_trimStart {cs : List Char} :
    ∀ c ∈ (trimStart cs).head?, isBlank c = false := by
  intro c hc
  have hstop := List.head?_dropWhile_not isBlank cs
  unfold trimStart at hc
  rw [Option.mem_def] at hc
  rw [hc] at hstop
  exact hstop

theorem trimStart_eq_self {cs : List Char} (h : ∀ c ∈ cs.head?, isBlank c = false) :
    trimStart cs = cs := by
  cases cs with
  | nil => rfl
  | cons c cs => exact trimStart_cons_of_not_blank (h c (by simp)) cs

theorem trimEnd_eq (cs : List Char) : trimEnd cs = (trimStart cs.reverse).reverse := rfl

/-- The end of a text is trimmed as the start of the reversed text. -/
theorem trimEnd_append_blank {w : List Char} (hw : Blank w) (cs : List Char) :
    trimEnd (cs ++ w) = trimEnd cs := by
  have hrev : Blank w.reverse := fun c hc => hw c (List.mem_reverse.mp hc)
  rw [trimEnd_eq, List.reverse_append, trimStart_blank_append hrev, ← trimEnd_eq]

theorem trimEnd_eq_self {cs : List Char} (h : ∀ c ∈ cs.getLast?, isBlank c = false) :
    trimEnd cs = cs := by
  rw [trimEnd_eq, trimStart_eq_self (by rwa [List.head?_reverse]), List.reverse_reverse]

/-- Trimming takes off white space around a text that neither starts nor ends with any. -/
theorem trim_eq_of_ends {v w cs : List Char} (hv : Blank v) (hw : Blank w) (hne : cs ≠ [])
    (hhead : ∀ c ∈ cs.head?, isBlank c = false) (hlast : ∀ c ∈ cs.getLast?, isBlank c = false) :
    trim (v ++ cs ++ w) = cs := by
  have hstart : trimStart (v ++ cs ++ w) = cs ++ w := by
    rw [List.append_assoc, trimStart_blank_append hv]
    refine trimStart_eq_self ?_
    rwa [List.head?_append, Option.or_of_isSome (by simpa using hne)]
  rw [trim, hstart, trimEnd_append_blank hw, trimEnd_eq_self hlast]

/-- A trimmed text starts with no white space. -/
theorem not_blank_of_mem_head?_trim {cs : List Char} :
    ∀ c ∈ (trim cs).head?, isBlank c = false := by
  obtain ⟨u, hu⟩ := List.dropWhile_suffix (l := (trimStart cs).reverse) isBlank
  have hsplit : trimStart cs = trim cs ++ u.reverse := by
    rw [trim, trimEnd, ← List.reverse_append, hu, List.reverse_reverse]
  have hstop : ∀ c ∈ (trimStart cs).head?, isBlank c = false := not_blank_of_mem_head?_trimStart
  intro c hc
  refine hstop c ?_
  rw [hsplit, List.head?_append, Option.mem_def.mp hc]
  rfl

/-- A trimmed text ends with no white space. -/
theorem not_blank_of_mem_getLast?_trim {cs : List Char} :
    ∀ c ∈ (trim cs).getLast?, isBlank c = false := by
  intro c hc
  rw [trim, trimEnd_eq, List.getLast?_reverse] at hc
  exact not_blank_of_mem_head?_trimStart c hc

/-- Trimming takes only characters away. -/
theorem mem_of_mem_trim {c : Char} {cs : List Char} (h : c ∈ trim cs) : c ∈ cs := by
  rw [trim, trimEnd, List.mem_reverse] at h
  have hrev := (List.dropWhile_suffix (l := (trimStart cs).reverse) isBlank).mem h
  exact (List.dropWhile_suffix (l := cs) isBlank).mem (List.mem_reverse.mp hrev)

end FixturePragmas.Text
