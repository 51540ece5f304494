/-!
# Lines of a text

A text is cut at its line feeds.  What follows the last line feed is a line only if it is not empty,
and a carriage return before a line feed belongs to the line end.
-/

namespace GridLayout

namespace Text

/-- A line without the carriage return at its end.  The line is given backwards. -/
def closeLine : List Char → String
  | '\r' :: rest => String.ofList rest.reverse
  | cs => String.ofList cs.reverse

/-- The lines of some characters; `current` holds the line that has begun, backwards. -/
def linesFrom (current : List Char) : List Char → List String
  | [] => if current.isEmpty then [] else [String.ofList current.reverse]
  | c :: rest =>
    if c = '\n' then closeLine current :: linesFrom [] rest else linesFrom (c :: current) rest

/-- The lines of a text. -/
def lines (s : String) : List String := linesFrom [] s.toList

end Text

end GridLayout
