import GridLayout.Text.Hidden

/-!
# Texts shown in quotes

A message that shows a piece of text puts it in double quotes.  The quote itself, the backslash and
the common controls are written with a backslash; any other character that would not show is written
by its number.
-/

namespace GridLayout

namespace Text

/-- A number in lower-case hexadecimal digits. -/
def hexText (n : Nat) : String := String.ofList (Nat.toDigits 16 n)

/-- A character between quotes. -/
def shown (c : Char) : String :=
  match c with
  | '"' => "\\\""
  | '\\' => "\\\\"
  | '\n' => "\\n"
  | '\r' => "\\r"
  | '\t' => "\\t"
  | '\x00' => "\\0"
  | c => if isHidden c then "\\u\x7b" ++ hexText c.toNat ++ "\x7d" else c.toString

/-- A text in quotes. -/
def quoted (s : String) : String := "\"" ++ String.join (s.toList.map shown) ++ "\""

end Text

end GridLayout
