import GridLayout.Document.Json.Quoted
import GridLayout.Document.Toml.Step

/-!
# TOML strings

There are four kinds of strings: in double or single quotes, on one line or over several.  Double
quotes allow escapes.  A string over several lines drops a line break right behind its opening, may
hold up to two quotes in a row, and counts every line break as a line feed.
-/

namespace GridLayout

namespace Toml

/-! ## Characters -/

/-- Whether a character stands for itself between double quotes. -/
def isBasic (c : Char) : Bool :=
  c == '\t' || isWide c || (0x20 ≤ c.toNat && c.toNat ≤ 0x7e && c != '"' && c != '\\')

/-- Whether a character stands for itself between single quotes. -/
def isLiteral (c : Char) : Bool :=
  c == '\t' || isWide c || (0x20 ≤ c.toNat && c.toNat ≤ 0x7e && c != '\'')

/-- Whether a number is that of a character. -/
def isScalar (n : Nat) : Bool := n < 0xd800 || (0xdfff < n && n ≤ 0x10ffff)

/-! ## Escapes -/

/-- The digits of an escape, so many and no fewer. -/
def hexEscape (count : Nat) (c : Cursor) : Step Char :=
  match Json.hexNumber? (c.rest.take count) with
  | some n =>
    if (c.rest.take count).length < count then failAt c
    else if isScalar n then .ok (Char.ofNat n, ⟨c.rest.drop count, c.offset + count⟩)
    else failFor c .outOfRange
  | none => failAt c

/-- The character that a letter stands for in an escape. -/
def escaped? : Char → Option Char
  | 'b' => some '\x08'
  | 'f' => some '\x0c'
  | 'n' => some '\n'
  | 'r' => some '\r'
  | 't' => some '\t'
  | '\\' => some '\\'
  | '"' => some '"'
  | _ => none

/-- What may follow a backslash. -/
def escapeLetters : List String := ["`b`", "`f`", "`n`", "`r`", "`t`", "`u`", "`U`", "`\\`", "`\"`"]

/-- The character of an escape, behind its backslash. -/
def escape (c : Cursor) : Step Char :=
  match c.rest with
  | [] => failAt c
  | 'u' :: _ => reading "unicode 4-digit hex code" (final (hexEscape 4 c.next))
  | 'U' :: _ => reading "unicode 8-digit hex code" (final (hexEscape 8 c.next))
  | ch :: _ =>
    match escaped? ch with
    | some e => .ok (e, c.next)
    | none =>
      let stop := if isWide ch then c else c.next
      expecting escapeLetters (reading "escape sequence" (final (failAt stop)))

/-! ## Strings on one line -/

/-- The characters between double quotes. -/
def basicBody : Nat → Cursor → List Char → Step (List Char)
  | 0, c, acc => .ok (acc.reverse, c)
  | fuel + 1, c, acc =>
    match c.rest with
    | [] => .ok (acc.reverse, c)
    | '\\' :: _ =>
      match optional c (escape c.next) with
      | .ok (some ch, behind) => basicBody fuel behind (ch :: acc)
      | .ok (none, _) => .ok (acc.reverse, c)
      | .error f => .error f
    | ch :: _ => if isBasic ch then basicBody fuel c.next (ch :: acc) else .ok (acc.reverse, c)

/-- A string in double quotes, at its opening quote. -/
def basicString (c : Cursor) : Except Failure (String × Cursor) := do
  let (body, c) ← basicBody (c.rest.length + 1) c.next []
  let (_, c) ← reading "basic string" (final (char '"' c))
  return (String.ofList body, c)

/-- A string in single quotes, at its opening quote. -/
def literalString (c : Cursor) : Except Failure (String × Cursor) := do
  let (body, c) := c.next.takeWhile isLiteral
  let (_, c) ← reading "literal string" (final (char '\'' c))
  return (String.ofList body, c)

/-! ## Strings over several lines -/

/-- A step that does not fail, and has nothing to say where there is nothing to read. -/
abbrev Piece := Except Failure (Option (List Char × Cursor))

/-- The cursor behind blanks and line breaks. -/
def skipBreaks : Nat → Cursor → Cursor
  | 0, c => c
  | fuel + 1, c =>
    match newline? (blanks c) with
    | some behind => skipBreaks fuel behind
    | none => blanks c

/-- A line break that is escaped together with all blanks and breaks behind it. -/
def escapedBreak? (c : Cursor) : Option Cursor :=
  (newline? (blanks c.next)).map fun behind => skipBreaks (c.rest.length + 1) behind

/-- The next characters of a string in double quotes over several lines. -/
def basicPiece (c : Cursor) : Piece :=
  match c.rest with
  | [] => .ok none
  | '\\' :: _ =>
    match escapedBreak? c with
    | some behind => .ok (some ([], behind))
    | none => do
      match ← optional c (escape c.next) with
      | (some ch, behind) => return some ([ch], behind)
      | (none, _) => return none
  | ch :: _ =>
    if isBasic ch then .ok (some ([ch], c.next))
    else .ok ((newline? c).map fun behind => (['\n'], behind))

/-- The next character of a string in single quotes over several lines. -/
def literalPiece (c : Cursor) : Piece :=
  match c.rest with
  | [] => .ok none
  | ch :: _ =>
    if isLiteral ch then .ok (some ([ch], c.next))
    else .ok ((newline? c).map fun behind => (['\n'], behind))

/-- The number of times that a character stands at the front. -/
def runLength (ch : Char) : List Char → Nat
  | [] => 0
  | c :: rest => if c = ch then runLength ch rest + 1 else 0

/-- The body of a string over several lines, up to the quotes that close it.

Of a run of quotes, one or two that are followed by anything else belong to the string, and so do
those that stand before the three that close it. -/
def longBody (quote : Char) (piece : Cursor → Piece) :
    Nat → Cursor → List Char → Except Failure (List Char × Cursor)
  | 0, c, acc => .ok (acc.reverse, c)
  | fuel + 1, c, acc => do
    match ← piece c with
    | some (cs, behind) => longBody quote piece fuel behind (cs.reverse ++ acc)
    | none =>
      let run := runLength quote c.rest
      let quotes := List.replicate run quote
      let behind : Cursor := ⟨c.rest.drop run, c.offset + run⟩
      if run = 0 then return (acc.reverse, c)
      else if run ≤ 2 then
        if behind.rest.isEmpty then return (acc.reverse, c)
        match ← piece behind with
        | some (cs, next) => longBody quote piece fuel next (cs.reverse ++ quotes ++ acc)
        | none => return (acc.reverse, if quote == '"' then behind else c)
      else
        let inside := min (run - 3) 2
        return ((List.replicate inside quote ++ acc).reverse,
          ⟨c.rest.drop inside, c.offset + inside⟩)

/-- A string over several lines, at the first of its three opening quotes. -/
def longString (kind mark : String) (quote : Char) (piece : Cursor → Piece) (c : Cursor) :
    Except Failure (String × Cursor) := do
  let (_, c) ← word mark c
  let c := (newline? c).getD c
  let (body, c) ← reading kind (final (longBody quote piece (c.rest.length + 1) c []))
  let (_, c) ← reading kind (final (word mark c))
  return (String.ofList body, c)

/-- A string of any kind, at its opening quote. -/
def string (c : Cursor) : Step String :=
  if c.at? '"' then
    if (c.word? "\"\"\"").isSome then
      longString "multiline basic string" "\"\"\"" '"' basicPiece c
    else basicString c
  else if (c.word? "'''").isSome then
    longString "multiline literal string" "'''" '\'' literalPiece c
  else literalString c

end Toml

end GridLayout
