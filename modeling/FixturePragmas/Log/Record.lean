import FixturePragmas.Log.Note
import FixturePragmas.Terminal.Escape

/-!
# Lines of the log

A record is shown in one of two layouts, the long one with the place it comes from if that is known,
and coloured by its level. The colour holds throughout the text, whatever control sequences this
has: a sequence in it that closes the colour opens it again at once; a stretch from one reset to the
next on the same line stands outside the colour; and where the text has line ends, the colour is
closed before each and opened again behind it, so that every line is coloured by itself.
-/

namespace FixturePragmas.Log

open Terminal (rendition)

/-- A place in a program. -/
structure Place where
  file : String
  line : Int
  function : String
  deriving DecidableEq, Repr

/-- What is logged, and where it comes from if that is known. -/
structure Record where
  level : Level
  message : List Char
  place? : Option Place := none
  deriving DecidableEq, Repr

/-- The record of a note. Notes are made without the place in the program's text at which they are
written, so the long layout shows no place for them. -/
def Note.record (n : Note) : Record := { level := n.level, message := n.text.toList }

/-! ### Layouts -/

/-- The two layouts. -/
inductive Layout where
  | short
  | long
  deriving DecidableEq, Repr

namespace Layout

/-- The layout for a log that starts at a level: the long one below the level of information. -/
def ofLevel (l : Level) : Layout := if Level.info ≤ l then short else long

/-- The template of a layout. -/
def template : Layout → String
  | short => "[%(levelname)s] %(message)s"
  | long => "[%(levelname)s] [%(filename)s:%(lineno)d] [%(funcName)s] %(message)s"

/-- The place as the long layout shows it: the last part of the file's name, the line, the function.
-/
def placeText (p : Place) : String := s!"[{Path.baseName p.file}:{p.line}] [{p.function}] "

/-- The record in a layout. -/
def text (l : Layout) (r : Record) : List Char :=
  let place :=
    match l with
    | short => ""
    | long => (r.place?.map placeText).getD ""
  s!"[{Level.name r.level}] {place}".toList ++ r.message

end Layout

/-! ### Colours -/

/-- A rendition: the numbers that set it and take it away. -/
structure Rendition where
  on : Nat
  off : Nat
  deriving DecidableEq, Repr

/-- The rendition in a colour of the foreground. -/
def Rendition.foreground (n : Nat) : Rendition := ⟨n, 39⟩

/-- The rendition in faint letters. -/
def Rendition.faint : Rendition := ⟨2, 22⟩

/-- The sequence that opens a rendition. -/
def Rendition.opening (r : Rendition) : List Char := rendition r.on

/-- The sequence that closes a rendition. -/
def Rendition.closing (r : Rendition) : List Char := rendition r.off

/-- The renditions of a level. -/
def Level.renditions (l : Level) : List Rendition :=
  if critical ≤ l then [.foreground 91]
  else if error ≤ l then [.foreground 31]
  else if warning ≤ l then [.foreground 33]
  else if info ≤ l then [.foreground 32]
  else if debug ≤ l then [.foreground 90]
  else if trace ≤ l then [.foreground 34]
  else [.faint, .foreground 31]

/-- The text with `behind` put behind each occurrence of `mark`. `rest` counts the characters that
are left of an occurrence. -/
def insertBehind (mark behind : List Char) : (rest : Nat) → List Char → List Char
  | _, [] => []
  | 0, c :: cs =>
    if mark.isPrefixOf (c :: cs) then
      -- occurrences do not overlap: the characters of this one are passed over first
      if mark.length ≤ 1 then c :: behind ++ insertBehind mark behind 0 cs
      else c :: insertBehind mark behind (mark.length - 1) cs
    else c :: insertBehind mark behind 0 cs
  | 1, c :: cs => c :: behind ++ insertBehind mark behind 0 cs
  | rest + 2, c :: cs => c :: insertBehind mark behind (rest + 1) cs

/-- The sequence that takes all renditions away. -/
def reset : List Char := rendition 0

/-- The text up to the end of the first reset on its line, and what follows, if there is one. -/
def throughReset? : List Char → Option (List Char × List Char)
  | [] => none
  | c :: cs =>
    if reset.isPrefixOf (c :: cs) then some (reset, cs.drop (reset.length - 1))
    -- a stretch does not go over a line end
    else if c = '\n' then none
    else (throughReset? cs).map fun t => (c :: t.1, t.2)

theorem throughReset?_length {cs : List Char} {t : List Char × List Char}
    (h : throughReset? cs = some t) : t.2.length ≤ cs.length := by
  induction cs generalizing t with
  | nil => simp [throughReset?] at h
  | cons c cs ih =>
    unfold throughReset? at h
    split at h
    · obtain rfl := Option.some.inj h
      simp only [List.length_drop, List.length_cons]
      omega
    · split at h
      · simp at h
      · obtain ⟨u, hu, rfl⟩ := Option.map_eq_some_iff.1 h
        have := ih hu
        simp only [List.length_cons]
        omega

/-- The stretch from a reset to the next that a text starts with, and what follows it. -/
def resetStretch? (cs : List Char) : Option (List Char × List Char) :=
  if reset.isPrefixOf cs then
    (throughReset? (cs.drop reset.length)).map fun t => (reset ++ t.1, t.2)
  else none

theorem resetStretch?_length {cs : List Char} {t : List Char × List Char}
    (h : resetStretch? cs = some t) : t.2.length < cs.length := by
  unfold resetStretch? at h
  split at h
  · next hp =>
    obtain ⟨u, hu, rfl⟩ := Option.map_eq_some_iff.1 h
    have hu := throughReset?_length hu
    have hl := (List.isPrefixOf_iff_prefix.1 hp).length_le
    have hpos : 0 < reset.length := by simp [reset, rendition]
    simp only [List.length_drop] at hu
    simp only
    omega
  · simp at h

/-- The text with `close` before each stretch from one reset to the next and `reopen` behind it. -/
def aroundResets (close reopen : List Char) (cs : List Char) : List Char :=
  match _hs : resetStretch? cs with
  | some t => close ++ t.1 ++ reopen ++ aroundResets close reopen t.2
  | none =>
    match cs with
    | [] => []
    | c :: cs' => c :: aroundResets close reopen cs'
termination_by cs.length
decreasing_by
  · exact resetStretch?_length _hs
  · simp

/-- The text with `close` before each line end and `reopen` behind it. -/
def aroundLineEnds (close reopen : List Char) : List Char → List Char
  | [] => []
  | '\r' :: '\n' :: rest => close ++ '\r' :: '\n' :: reopen ++ aroundLineEnds close reopen rest
  | c :: rest =>
    if c = '\n' then close ++ '\n' :: reopen ++ aroundLineEnds close reopen rest
    else c :: aroundLineEnds close reopen rest

/-- The text in the colour of a level. -/
def Level.paint (l : Level) (cs : List Char) : List Char :=
  let opening := l.renditions.flatMap Rendition.opening
  let closing := l.renditions.flatMap Rendition.closing
  -- first of all, so that the closing sequences put in below are not taken for those of the text
  let kept := l.renditions.foldl (fun cs r => insertBehind r.closing r.opening 0 cs) cs
  opening ++ aroundLineEnds closing opening (aroundResets closing opening kept) ++ closing

/-- The record as it is shown. -/
def Record.render (r : Record) (l : Layout) : List Char := r.level.paint (l.text r)

end FixturePragmas.Log
