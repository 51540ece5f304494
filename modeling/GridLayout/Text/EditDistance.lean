/-!
# Edit distance and near names

The distance between two texts is the least number of characters to insert, delete or replace to get
from one to the other.  It is computed row by row: the row of a prefix `p` of the first text holds
the distances from `p` to every prefix of the second.

Two rows are enough.  One is finished; the other is filled from the left, over whatever an earlier
round has left in it, and then the two change places.  Every cell is read and written by its index,
and there is no distance when an index is not one of its row.

`near` lists the names close to a misspelt one, the closest first and otherwise in the order given.
-/

namespace GridLayout

namespace EditDistance

/-- The row of the prefix that was read last, and the row that is filled next. -/
structure Rows where
  finished : Array Nat
  next : Array Nat
  deriving DecidableEq, Repr

namespace Rows

/-- The rows before a character is read: every prefix of the second text is inserted whole. -/
def start (width : Nat) : Rows := ⟨Array.range (width + 1), Array.replicate (width + 1) 0⟩

/-- Puts a number into a cell of the next row. -/
def put? (rows : Rows) (j n : Nat) : Option Rows :=
  if h : j < rows.next.size then some { rows with next := rows.next.set j n h } else none

/-- Fills the cell of the next row behind column `j`, for character `i` of the first text. -/
def fillCell? (a b : Array Char) (i : Nat) (rows : Rows) (j : Nat) : Option Rows := do
  let c ← a[i]?
  let d ← b[j]?
  let above ← rows.finished[j + 1]?
  let left ← rows.next[j]?
  let diagonal ← rows.finished[j]?
  rows.put? (j + 1) (min (min (above + 1) (left + 1)) (diagonal + if c = d then 0 else 1))

/-- The next row is finished, and the other one can be filled. -/
def swap (rows : Rows) : Rows := ⟨rows.next, rows.finished⟩

/-- Fills the next row, for character `i` of the first text. -/
def fillRow? (a b : Array Char) (rows : Rows) (i : Nat) : Option Rows := do
  let begun ← rows.put? 0 (i + 1)
  let filled ← (List.range b.size).foldlM (fillCell? a b i) begun
  return filled.swap

end Rows

/-- The distance between two lists of characters, unless an index is outside of its row. -/
def distance? (a b : Array Char) : Option Nat := do
  let rows ← (List.range a.size).foldlM (Rows.fillRow? a b) (Rows.start b.size)
  rows.finished[b.size]?

end EditDistance

/-- The distance between two texts, in characters. -/
def editDistance (a b : String) : Nat :=
  (EditDistance.distance? a.toList.toArray b.toList.toArray).getD 0

/-- The names at distance `1` to `limit` from `target`: the closest first, equally close ones in the
order given, and no more than `count`. -/
def near (names : List String) (target : String) (limit count : Nat) : List String :=
  ((List.range limit).flatMap fun d =>
    names.eraseDups.filter fun n => editDistance n target == d + 1).take count

end GridLayout
