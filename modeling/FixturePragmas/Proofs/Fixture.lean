import FixturePragmas.Fixture
import FixturePragmas.Proofs.Journal
import FixturePragmas.Proofs.Limit
import FixturePragmas.Proofs.Scan.Notes
import FixturePragmas.Proofs.Text.LineEnd
import FixturePragmas.Proofs.Text.Utf8

/-!
# What a fixture is read as

A file is looked at only if there are openers for it. Then its bytes decide: bytes of a text give
the table of this text, without the mark it may start with and with its line ends unified
(`Fixture.content`); other bytes, and a file that cannot be opened, are reported as such. That is
all that reading depends on (`outcome_ofFile_of_text` and the lemmas before it), so a fixture has
the same table however its lines end and whether it is marked or not.
-/

namespace FixturePragmas.Fixture

open Text (EndedLine LineEnd Unbroken written)
open Text.Utf8 (encode)

/-- The text behind the byte order mark, if there is one. -/
def unmarked : List Char → List Char
  | [] => []
  | c :: rest => if c = byteOrderMark then rest else c :: rest

/-- The text of a fixture whose file holds the characters `cs`. -/
def content (cs : List Char) : List Char := Text.unifyNewlines (unmarked cs)

/-- The openers for `path`: those that are given, or those of its dialect. -/
def openersUnder (c : Catalog) (openers? : Option (List String)) (path : Path) :
    Option (List String) :=
  match openers? with
  | some openers => some openers
  | none => c.openersFor? path

theorem unmarked_of_head?_ne {cs : List Char} (h : cs.head? ≠ some byteOrderMark) :
    unmarked cs = cs := by
  cases cs with
  | nil => rfl
  | cons c rest => exact if_neg fun hc => h (congrArg some hc)

/-! ### Outcomes of the steps -/

theorem outcome_withoutMark (path : Path) (cs : List Char) :
    (withoutMark path cs).outcome = .ok (unmarked cs) := by
  cases cs with
  | nil => rfl
  | cons c rest =>
    rw [withoutMark, unmarked]
    split <;> rfl

theorem outcome_readText (fs : FileSystem) (path : Path) :
    (readText fs path).outcome = do
      let bytes ← (fs.read path).mapError (Failure.ofOpenError path)
      let cs ← (Text.Utf8.decode bytes).mapError fun m => .unreadable ⟨path, .malformed m⟩
      return content cs := by
  simp only [readText, Journal.outcome_bind, Journal.outcome_ofExcept, outcome_withoutMark,
    Journal.outcome_pure]
  rfl

theorem outcome_ofText (openers : List String) (path? : Option Path) (cs : List Char) :
    (ofText openers path? cs).outcome = (scan openers cs).map fun t => ⟨t, openers, path?⟩ := by
  rw [ofText, Journal.outcome_bind, outcome_scanWithNotes]
  cases scan openers cs <;> rfl

theorem outcome_openersIn (c : Catalog) (path : Path) :
    (openersIn c path).outcome =
      match c.openersFor? path with
      | some openers => .ok openers
      | none => .error (.unknownDialect path) := by
  unfold openersIn Catalog.openersFor? Catalog.resolve?
  cases c.resolution? path <;> rfl

/-- Reading a file, with its three steps one after the other. -/
theorem outcome_ofFile (fs : FileSystem) (c : Catalog) (openers? : Option (List String))
    (path : Path) :
    (ofFile fs c openers? path).outcome =
      match openersUnder c openers? path with
      | none => .error (.unknownDialect path)
      | some openers =>
        (readText fs path).outcome >>= fun cs =>
          ((scan openers cs).map fun t => ⟨t, openers, some path⟩).mapError .column := by
  cases openers? with
  | some openers =>
    simp only [ofFile, openersUnder, pure_bind, Journal.outcome_bind, Journal.outcome_mapError,
      outcome_ofText]
  | none =>
    simp only [ofFile, openersUnder, Journal.outcome_bind, Journal.outcome_mapError,
      outcome_openersIn, outcome_ofText]
    cases c.openersFor? path <;> rfl

/-! ### What becomes of a file -/

section

variable {fs : FileSystem} {c : Catalog} {openers? : Option (List String)} {openers : List String}
  {path : Path}

/-- Without openers the file is not looked at. -/
theorem outcome_ofFile_of_no_openers (fs : FileSystem) (h : openersUnder c openers? path = none) :
    (ofFile fs c openers? path).outcome = .error (.unknownDialect path) := by
  rw [outcome_ofFile, h]

/-- A file that cannot be opened. -/
theorem outcome_ofFile_of_open_error (h : openersUnder c openers? path = some openers)
    {e : OpenError} (hread : fs.read path = .error e) :
    (ofFile fs c openers? path).outcome = .error (Failure.ofOpenError path e) := by
  rw [outcome_ofFile, h, outcome_readText, hread]
  rfl

/-- A file whose bytes are not those of a text. -/
theorem outcome_ofFile_of_not_encode (h : openersUnder c openers? path = some openers)
    {bs : List UInt8} (hread : fs.read path = .ok bs) (hbs : ∀ cs, bs ≠ encode cs) :
    ∃ m, (ofFile fs c openers? path).outcome = .error (.unreadable ⟨path, .malformed m⟩) := by
  obtain ⟨m, hm⟩ := Text.Utf8.exists_decode_eq_error hbs
  refine ⟨m, ?_⟩
  rw [outcome_ofFile, h, outcome_readText, hread]
  show ((Text.Utf8.decode bs).mapError _ >>= _) >>= _ = _
  rw [hm]
  rfl

/-- A file that holds a text has the table of this text. -/
theorem outcome_ofFile_of_text (h : openersUnder c openers? path = some openers) {cs : List Char}
    (hread : fs.read path = .ok (encode cs)) :
    (ofFile fs c openers? path).outcome =
      ((scan openers (content cs)).map fun t => ⟨t, openers, some path⟩).mapError .column := by
  have hdecode := Text.Utf8.decode_eq_ok_iff.mpr (rfl : encode cs = encode cs)
  rw [outcome_ofFile, h, outcome_readText, hread]
  show ((Text.Utf8.decode (encode cs)).mapError _ >>= _) >>= _ = _
  rw [hdecode]
  rfl

end

/-! ### Marks and line ends -/

/-- The bytes of the byte order mark. -/
def markBytes : List UInt8 := [0xEF, 0xBB, 0xBF]

theorem encode_mark_cons (cs : List Char) : encode (byteOrderMark :: cs) = markBytes ++ encode cs :=
  Text.Utf8.encode_cons byteOrderMark cs

/-- A text without a mark of its own is read as it is, with a mark before it and without. -/
theorem exists_content_of_marked {mark : List UInt8} (hmark : mark ∈ [[], markBytes])
    {cs : List Char} (hcs : cs.head? ≠ some byteOrderMark) :
    ∃ cs', mark ++ encode cs = encode cs' ∧ content cs' = Text.unifyNewlines cs := by
  rcases List.mem_pair.mp hmark with rfl | rfl
  · exact ⟨cs, rfl, congrArg Text.unifyNewlines (unmarked_of_head?_ne hcs)⟩
  · exact ⟨byteOrderMark :: cs, (encode_mark_cons cs).symm, rfl⟩

/-- Under given openers the table of a file is that of its lines, each of which may end in LF, CR LF
or CR, whether a byte order mark precedes them or not. Bytes that are no UTF-8 are reported as a
fault in the encoding of this file. -/
theorem ofFile_written (fs : FileSystem) (c : Catalog) (openers : List String) (path : Path) :
    (∀ (ls : List EndedLine) (last : List Char) (mark : List UInt8),
        (∀ l ∈ ls, Unbroken l.chars) → Unbroken last → ls.IsChain EndedLine.Apart →
        (written ls ++ last).head? ≠ some byteOrderMark → mark ∈ [[], markBytes] →
        fs.read path = .ok (mark ++ encode (written ls ++ last)) →
        (ofFile fs c (some openers) path).outcome =
          ((scan openers (Text.unlines (ls.map (·.chars)) ++ last)).map fun t =>
            ⟨t, openers, some path⟩).mapError .column) ∧
      ∀ bs : List UInt8, fs.read path = .ok bs → (∀ cs, bs ≠ encode cs) →
        ∃ e : ReadError, (ofFile fs c (some openers) path).outcome = .error (.unreadable e) ∧
          e.path = path ∧ e.reason = .encoding := by
  have hopeners : openersUnder c (some openers) path = some openers := rfl
  refine ⟨fun ls last mark hls hlast hapart hhead hmark hread => ?_, fun bs hread hbs => ?_⟩
  · obtain ⟨cs, hbytes, hcontent⟩ := exists_content_of_marked hmark hhead
    rw [hbytes] at hread
    rw [outcome_ofFile_of_text hopeners hread, hcontent,
      Text.unifyNewlines_written hls hlast hapart]
  · obtain ⟨m, hm⟩ := outcome_ofFile_of_not_encode hopeners hread hbs
    exact ⟨⟨path, .malformed m⟩, hm, rfl, rfl⟩

/-- Three lines that end in three ways. -/
def mixedLines : List EndedLine := [⟨"#[A]: 3".toList, .cr⟩, ⟨"x".toList, .crlf⟩, ⟨[], .lf⟩]

/-- A marked file of mixed lines, and one that stops being UTF-8 at its second byte. -/
def mixedFiles : FileSystem :=
  .ofProbes ⟨.single, []⟩
    [⟨⟨.relative, ["mixed"]⟩, .ok (markBytes ++ encode (written mixedLines ++ "y #[B]".toList))⟩,
      ⟨⟨.relative, ["broken"]⟩, .ok [0x78, 0xFF]⟩]

theorem ofFile_written_mixedFiles :
    (ofFile mixedFiles .empty (some ["#"]) ⟨.relative, ["mixed"]⟩).outcome =
        ((scan ["#"] "#[A]: 3\nx\n\ny #[B]".toList).map fun t =>
          ⟨t, ["#"], some ⟨.relative, ["mixed"]⟩⟩).mapError .column ∧
      ∃ e : ReadError,
        (ofFile mixedFiles .empty (some ["#"]) ⟨.relative, ["broken"]⟩).outcome =
            .error (.unreadable e) ∧
          e.path = ⟨.relative, ["broken"]⟩ ∧ e.reason = .encoding := by
  have hbroken : ∀ cs, [0x78, 0xFF] ≠ encode cs := by
    intro cs hcs
    have hread : Text.Utf8.decode [0x78, 0xFF] = .error ⟨1, 1, 0xFF, .invalidStart⟩ := by
      decide +kernel
    rw [Text.Utf8.decode_eq_ok_iff.mpr hcs] at hread
    cases hread
  exact ⟨(ofFile_written mixedFiles .empty ["#"] ⟨.relative, ["mixed"]⟩).1 mixedLines
      "y #[B]".toList markBytes (by decide) (by decide) (by decide) (by decide) (by decide) rfl,
    (ofFile_written mixedFiles .empty ["#"] ⟨.relative, ["broken"]⟩).2 _ rfl hbroken⟩

/-! ### Empty tables -/

theorem inOrder_of_isEmpty {f : Fixture} (h : f.table.isEmpty = true) : f.inOrder = [] := by
  rw [inOrder, Table.inOrder, Dict.toList, List.isEmpty_iff.mp h, List.mergeSort_nil]

end FixturePragmas.Fixture
