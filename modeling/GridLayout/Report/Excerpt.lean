import GridLayout.Document.Fault
import GridLayout.Text.Width

/-!
# Excerpts of a text

A report shows the lines of a text that it is about, numbered, with a mark under the place and the
message at the mark.  A place within one line is underlined; a place over several lines is bracketed
from its first to its last line, and what lies between is left out.

Places are counted in characters here, and every kind of line separator ends a line.
-/

namespace GridLayout

namespace Report

/-! ## Lines -/

/-- A line with its end, and the number of characters before it. -/
structure SourceLine where
  offset : Nat
  chars : List Char

/-- Whether a character ends a line. -/
def isSeparator (c : Char) : Bool :=
  (0x0a ≤ c.toNat && c.toNat ≤ 0x0d) || c.toNat == 0x85 || c.toNat == 0x2028 || c.toNat == 0x2029

/-- The lines of some characters.  `current` holds the line that has begun, backwards. -/
def linesFrom (offset : Nat) (current : List Char) : List Char → List SourceLine
  | [] => if current.isEmpty then [] else [⟨offset, current.reverse⟩]
  | c :: rest =>
    let line := c :: current
    if c = '\r' && rest.head? == some '\n' then linesFrom offset line rest
    else if isSeparator c then
      ⟨offset, line.reverse⟩ :: linesFrom (offset + line.length) [] rest
    else linesFrom offset line rest

/-- The lines of a text. -/
def sourceLines (source : String) : List SourceLine := linesFrom 0 [] source.toList

/-- The number of a line, counted from zero, and a place in it counted in characters. -/
structure LinePlace where
  index : Nat
  line : SourceLine
  column : Nat

/-- The line of a place: the last that starts at or before it. -/
def linePlace? (lines : List SourceLine) (place : Nat) : Option LinePlace :=
  (lines.zipIdx.filter fun l => l.1.offset ≤ place).getLast?.map fun l =>
    ⟨l.2, l.1, place - l.1.offset⟩

/-- A line without the white space at its end. -/
def SourceLine.shown (line : SourceLine) : List Char :=
  (line.chars.reverse.dropWhile Text.isSpace).reverse

/-! ## Columns -/

/-- The number of columns between two stops of the tabulator. -/
def tabWidth : Nat := 4

/-- What a character at a place in its line looks like, and the number of its columns. -/
def cell (c : Char) (column : Nat) : Char × Nat :=
  if c = '\t' then (' ', (column / tabWidth + 1) * tabWidth - column)
  else if Text.isSpace c then (' ', 1)
  else (c, Text.columnWidth c)

/-- `n` times the same character. -/
def times (n : Nat) (c : Char) : String := String.ofList (List.replicate n c)

/-- A line as it is shown. -/
def SourceLine.text (line : SourceLine) : String :=
  String.join (line.shown.zipIdx.map fun (c, column) =>
    let (shown, width) := cell c column
    if Text.isSpace c then times width shown else shown.toString)

/-- The widths of the first so many places of a line; places beyond it have width one. -/
def SourceLine.widths (line : SourceLine) (count : Nat) : List Nat :=
  let inside := line.shown.zipIdx.map fun (c, column) => (cell c column).2
  inside.take count ++ List.replicate (count - inside.length) 1

/-- A row of marks under a line: for every place the mark in its first column, and that in all
further columns. -/
def SourceLine.row (line : SourceLine) (count : Nat) (mark : Nat → Char × Char) : String :=
  String.join ((line.widths count).zipIdx.map fun (width, column) =>
    let (first, further) := mark column
    if width = 0 then "" else first.toString ++ times (width - 1) further)

/-! ## Margins -/

/-- A line number on the left. -/
def numberedMargin (digits index : Nat) : String :=
  let number := toString (index + 1)
  " " ++ times (digits - number.length) ' ' ++ number ++ " │ "

/-- An empty margin. -/
def emptyMargin (digits : Nat) : String := " " ++ times (digits + 1) ' ' ++ "│ "

/-- The margin of lines that are left out. -/
def gapMargin (digits : Nat) : String := " " ++ times (digits + 1) ' ' ++ "┆ "

/-- The number of columns behind a mark before its message. -/
def leadLength : Nat := 2

/-! ## Places within one line -/

/-- The line of a place, the mark under it and the message. -/
def inlineExcerpt (digits : Nat) (place : LinePlace) (span : Span) (message : String) :
    List String :=
  let offset := place.line.offset
  let first := span.start - offset
  let last := span.stop - offset
  let middle := (span.start + span.stop) / 2 - offset
  let length := last + leadLength
  let under (column : Nat) : Bool := first ≤ column && column < last
  let underline := place.line.row length fun column =>
    if column = middle then (if under column then ('┬', '─') else ('│', ' '))
    else if under column then ('─', '─') else (' ', ' ')
  let arrow := place.line.row length fun column =>
    if column = middle then ('╰', '─') else if middle < column then ('─', '─') else (' ', ' ')
  [numberedMargin digits place.index ++ place.line.text,
    emptyMargin digits ++ underline,
    emptyMargin digits ++ arrow ++ " " ++ message]

/-! ## Places over several lines -/

/-- The first and the last line of a place, a bracket between them and the message. -/
def bracketExcerpt (digits : Nat) (first last : LinePlace) (message : String) : List String :=
  let length := last.line.chars.length + leadLength
  let between := if first.index + 1 < last.index then [gapMargin digits ++ "┆"] else []
  [numberedMargin digits first.index ++ "╭─▶ " ++ first.line.text] ++ between ++
    [numberedMargin digits last.index ++ "├─▶ " ++ last.line.text,
      emptyMargin digits ++ "│",
      emptyMargin digits ++ "╰───" ++ (last.line.row length fun _ => ('─', '─')) ++ " " ++ message]

/-! ## Excerpts -/

/-- The number of digits of a number, zero having one. -/
def digitCount (n : Nat) : Nat := (Nat.toDigits 10 n).length

/-- The excerpt about a place, in lines; nothing if the text has no such place. -/
def excerpt (filename source : String) (span : Span) (message : String) : List String :=
  let lines := sourceLines source
  let length := lines.foldl (fun n l => n + l.chars.length) 0
  let final := max span.start (span.stop - 1)
  if length < final then []
  else
    match linePlace? lines span.start, linePlace? lines final with
    | some first, some last =>
      let digits := digitCount (last.index + 1)
      let indent := times (digits + 2) ' '
      let body :=
        if first.index = last.index then inlineExcerpt digits first span message
        else bracketExcerpt digits first last message
      [s!"{indent}╭─[{filename}:{first.index + 1}:{first.column + 1}]", indent ++ "│"] ++ body ++
        [times (digits + 2) '─' ++ "╯"]
    | _, _ => []

end Report

end GridLayout
