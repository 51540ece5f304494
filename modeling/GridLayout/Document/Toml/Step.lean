import GridLayout.Document.Fault
import GridLayout.Text.Cursor

/-!
# Steps of reading TOML

A step reads something at a cursor and gives back what it read and the cursor behind it, or a
`Failure`.  A failure that is not final leaves it to the caller to try something else in the same
place; a final one ends the reading.

What is said about a failure is gathered on its way out: the innermost thing that was being read,
and everything that could have stood there, from the inside out.
-/

namespace GridLayout

namespace Toml

/-! ## Failures -/

/-- Why a step failed, and where. -/
structure Failure where
  /-- Whether nothing else is tried. -/
  final : Bool
  offset : Nat
  cause : TomlCause

/-- What a step comes to. -/
abbrev Step (β : Type) := Except Failure (β × Cursor)

variable {β : Type}

/-- A failure at a cursor about which nothing more is known. -/
def failAt (c : Cursor) : Step β := .error ⟨false, c.offset, ⟨none, [], none⟩⟩

/-- A failure at a cursor for a particular reason. -/
def failFor (c : Cursor) (reason : TomlReason) : Step β :=
  .error ⟨false, c.offset, ⟨none, [], some reason⟩⟩

/-- Makes a failure final. -/
def final (s : Step β) : Step β := s.mapError fun f => { f with final := true }

/-- Says what was being read. -/
def reading (what : String) (s : Step β) : Step β :=
  s.mapError fun f => { f with cause := { f.cause with reading := f.cause.reading <|> some what } }

/-- Says what could have stood there. -/
def expecting (what : List String) (s : Step β) : Step β :=
  s.mapError fun f => { f with cause := { f.cause with expected := f.cause.expected ++ what } }

/-- Tries a second step where the first failed without being final. -/
def orElse (first : Step β) (second : Unit → Step β) : Step β :=
  match first with
  | .error f => if f.final then .error f else second ()
  | .ok r => .ok r

/-- A step that may be left out. -/
def optional (c : Cursor) (s : Step β) : Step (Option β) :=
  match s with
  | .ok (b, behind) => .ok (some b, behind)
  | .error f => if f.final then .error f else .ok (none, c)

/-- A single character. -/
def char (ch : Char) (c : Cursor) : Step Unit := if c.at? ch then .ok ((), c.next) else failAt c

/-- A word. -/
def word (w : String) (c : Cursor) : Step Unit :=
  match c.word? w with
  | some behind => .ok ((), behind)
  | none => failAt c

/-! ## Blanks, comments and line ends -/

/-- Whether a character is a blank within a line. -/
def isBlank (c : Char) : Bool := c == ' ' || c == '\t'

/-- Whether a character lies beyond ASCII. -/
def isWide (c : Char) : Bool := 0x80 ≤ c.toNat

/-- Whether a character may stand in a comment. -/
def isComment (c : Char) : Bool := c == '\t' || (0x20 ≤ c.toNat && c.toNat != 0x7f)

/-- The cursor behind the blanks. -/
def blanks (c : Cursor) : Cursor := c.dropWhile isBlank

/-- The cursor behind a line break. -/
def newline? (c : Cursor) : Option Cursor :=
  match c.rest with
  | '\n' :: _ => some c.next
  | '\r' :: '\n' :: _ => some c.next.next
  | _ => none

/-- The cursor behind a comment, if there is one. -/
def comment (c : Cursor) : Cursor := if c.at? '#' then c.dropWhile isComment else c

/-- What may stand behind a value or a header: blanks, a comment, and the end of the line. -/
def lineTrailing (c : Cursor) : Step Unit :=
  let behind := comment (blanks c)
  let outcome : Step Unit :=
    match newline? behind with
    | some c => .ok ((), c)
    | none => if behind.rest.isEmpty then .ok ((), behind) else failAt behind
  expecting ["newline", "`#`"] outcome

/-- Blanks, comments and line breaks between the items of an array. -/
def spacingFrom : Nat → Cursor → Step Unit
  | 0, c => .ok ((), c)
  | fuel + 1, c =>
    let c := blanks c
    if c.at? '#' || c.at? '\n' || c.at? '\r' then
      let behind := comment c
      match newline? behind with
      | some c => spacingFrom fuel c
      | none => failAt behind
    else .ok ((), c)

/-- Blanks, comments and line breaks. -/
def spacing (c : Cursor) : Step Unit := spacingFrom (c.rest.length + 1) c

end Toml

end GridLayout
