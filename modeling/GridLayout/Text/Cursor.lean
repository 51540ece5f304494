/-!
# Places in a text

A `Cursor` is what is left of a text that is being read, with the number of bytes before it.
Reading only ever takes characters off the front, so the offset always fits the rest.
-/

namespace GridLayout

/-- What is left of a text, and the number of bytes before it. -/
structure Cursor where
  rest : List Char
  offset : Nat
  deriving DecidableEq, Repr

namespace Cursor

/-- The start of a text. -/
def ofText (s : String) : Cursor := ⟨s.toList, 0⟩

/-- The next character. -/
def head? (c : Cursor) : Option Char := c.rest.head?

/-- The cursor behind the next character. -/
def next (c : Cursor) : Cursor :=
  match c.rest with
  | [] => c
  | ch :: rest => ⟨rest, c.offset + ch.utf8Size⟩

/-- Whether the next character is the given one. -/
def at? (c : Cursor) (ch : Char) : Bool := c.rest.head? == some ch

/-- Whether the next character is there and satisfies a condition. -/
def satisfies (c : Cursor) (p : Char → Bool) : Bool :=
  match c.rest with
  | [] => false
  | ch :: _ => p ch

/-- Takes characters off a list as long as a condition holds. -/
def takeFrom (p : Char → Bool) : List Char → Nat → List Char × Cursor
  | [], offset => ([], ⟨[], offset⟩)
  | ch :: rest, offset =>
    if p ch then
      let (taken, c) := takeFrom p rest (offset + ch.utf8Size)
      (ch :: taken, c)
    else ([], ⟨ch :: rest, offset⟩)

/-- The characters at the front that satisfy a condition, and the cursor behind them. -/
def takeWhile (c : Cursor) (p : Char → Bool) : List Char × Cursor := takeFrom p c.rest c.offset

/-- The cursor behind the characters at the front that satisfy a condition. -/
def dropWhile (c : Cursor) (p : Char → Bool) : Cursor := (c.takeWhile p).2

/-- The cursor behind a word, if the text goes on with it. -/
def word? (c : Cursor) (w : String) : Option Cursor :=
  if w.toList.isPrefixOf c.rest then
    some ⟨c.rest.drop w.length, c.offset + w.utf8ByteSize⟩
  else none

end Cursor

end GridLayout
