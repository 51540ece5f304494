import GridLayout.Document.Fault

/-!
# Lines and columns

Offsets, lines and columns all count bytes here; lines end with a line feed.  `Position.ofOffset`
says in which line an offset lies and how many bytes of the line are before it, and `offsetOf?`
leads back from a line and a one-based column to an offset, staying within the text.
-/

namespace GridLayout

/-- A line, counted from one, and a number of bytes of it. -/
structure Position where
  line : Nat
  column : Nat
  deriving DecidableEq, Repr

/-- The byte that ends a line. -/
def lineFeed : UInt8 := 10

/-- The bytes of a text. -/
def bytesOf (source : String) : List UInt8 := source.toUTF8.toList

/-- The line of an offset, and the number of bytes before it in its line. -/
def Position.ofOffset (bytes : List UInt8) (offset : Nat) : Position :=
  let before := bytes.take offset
  ⟨1 + before.count lineFeed, (before.reverse.takeWhile fun b => b != lineFeed).length⟩

/-- The lines of a text, each with the line feed that ends it.  Behind the last line feed there is
one more line if there is anything left. -/
def linesOf (bytes : List UInt8) : List (List UInt8) := bytes.splitBy fun b _ => b != lineFeed

/-- The number of bytes in the first lines of a text. -/
def lineStart (n : Nat) (bytes : List UInt8) : Nat :=
  ((linesOf bytes).take n).flatten.length

/-- The offset of a line and a column, both counted from one.  Column zero counts as the first, and
what lies beyond the text counts as its end. -/
def offsetOf? (bytes : List UInt8) (line column : Nat) : Option Nat :=
  if line = 0 then none
  else some (min (lineStart (line - 1) bytes + (column - 1)) bytes.length)

end GridLayout
