import GridLayout.Document.Fault
import GridLayout.Text.Cursor

/-!
# JSON strings

A string is read in one of two ways.  `readString` decodes it; `skipString` only looks for its end
and does not ask whether its escapes form characters.  Every string that can be read can be
skipped.

Both start behind the opening quote.
-/

namespace GridLayout

namespace Json

/-! ## Hexadecimal escapes -/

/-- The value of a hexadecimal digit. -/
def hexValue? (c : Char) : Option Nat :=
  if '0' ≤ c && c ≤ '9' then some (c.toNat - 48)
  else if 'a' ≤ c && c ≤ 'f' then some (c.toNat - 87)
  else if 'A' ≤ c && c ≤ 'F' then some (c.toNat - 55)
  else none

/-- The number that some hexadecimal digits stand for. -/
def hexNumber? (digits : List Char) : Option Nat :=
  digits.foldl (fun acc c => acc.bind fun n => (hexValue? c).map fun d => 16 * n + d) (some 0)

/-- The number of bytes of some characters. -/
def byteCount (cs : List Char) : Nat := cs.foldl (fun n c => n + c.utf8Size) 0

/-- Reads the four digits of an escape.  Four bytes are taken whatever they are. -/
def readHex (c : Cursor) : Except Fault (Nat × Cursor) :=
  let left := byteCount (c.rest.take 4)
  if left < 4 then .error (.json .endInString (c.offset + left))
  else
    match hexNumber? (c.rest.take 4) with
    | some n => .ok (n, ⟨c.rest.drop 4, c.offset + 4⟩)
    | none => .error (.json .badEscape (c.offset + 4))

/-- Whether a number is the first half of a surrogate pair. -/
def isLeading (n : Nat) : Bool := 0xd800 ≤ n && n ≤ 0xdbff

/-- Whether a number is the second half of a surrogate pair. -/
def isTrailing (n : Nat) : Bool := 0xdc00 ≤ n && n ≤ 0xdfff

/-- The character of a surrogate pair. -/
def pairChar (leading trailing : Nat) : Char :=
  Char.ofNat ((leading - 0xd800) * 0x400 + (trailing - 0xdc00) + 0x10000)

/-- Reads one character of the rest of an escape that a pair needs. -/
def readPairMark (c : Cursor) (mark : Char) : Except Fault Cursor :=
  match c.rest with
  | [] => .error (.json .endInString c.offset)
  | ch :: _ =>
    if ch = mark then .ok c.next else .error (.json .openSurrogate (c.offset + 1))

/-- Reads the character of a hexadecimal escape, behind its letter. -/
def readUnicode (c : Cursor) : Except Fault (Char × Cursor) := do
  let (n, c) ← readHex c
  if isTrailing n then throw (.json .loneSurrogate c.offset)
  if isLeading n then
    let c ← readPairMark c '\\'
    let c ← readPairMark c 'u'
    let (m, c) ← readHex c
    if isTrailing m then return (pairChar n m, c)
    throw (.json .loneSurrogate c.offset)
  return (Char.ofNat n, c)

/-! ## Escapes -/

/-- The character that a letter stands for in an escape. -/
def escaped? : Char → Option Char
  | '"' => some '"'
  | '\\' => some '\\'
  | '/' => some '/'
  | 'b' => some '\x08'
  | 'f' => some '\x0c'
  | 'n' => some '\n'
  | 'r' => some '\r'
  | 't' => some '\t'
  | _ => none

/-- Reads the character of an escape, behind its backslash. -/
def readEscape (c : Cursor) : Except Fault (Char × Cursor) :=
  match c.rest with
  | [] => .error (.json .endInString c.offset)
  | 'u' :: _ => readUnicode c.next
  | ch :: _ =>
    match escaped? ch with
    | some e => .ok (e, c.next)
    | none => .error (.json .badEscape (c.offset + 1))

/-- Passes over an escape, behind its backslash. -/
def skipEscape (c : Cursor) : Except Fault Cursor :=
  match c.rest with
  | [] => .error (.json .endInString c.offset)
  | 'u' :: _ => (readHex c.next).map Prod.snd
  | ch :: _ =>
    match escaped? ch with
    | some _ => .ok c.next
    | none => .error (.json .badEscape (c.offset + 1))

/-! ## Strings -/

/-- Whether a character may not stand in a string. -/
def isControl (c : Char) : Bool := c.toNat < 0x20

/-- Reads a string up to its closing quote. -/
def readStringFrom : Nat → Cursor → List Char → Except Fault (String × Cursor)
  | 0, c, _ => .error (.json .endInString c.offset)
  | fuel + 1, c, acc =>
    match c.rest with
    | [] => .error (.json .endInString c.offset)
    | '"' :: _ => .ok (String.ofList acc.reverse, c.next)
    | '\\' :: _ =>
      match readEscape c.next with
      | .ok (ch, c) => readStringFrom fuel c (ch :: acc)
      | .error f => .error f
    | ch :: _ =>
      if isControl ch then .error (.json .controlCharacter (c.offset + 1))
      else readStringFrom fuel c.next (ch :: acc)

/-- Reads a string. -/
def readString (c : Cursor) : Except Fault (String × Cursor) :=
  readStringFrom (c.rest.length + 1) c []

/-- Passes over a string up to its closing quote. -/
def skipStringFrom : Nat → Cursor → Except Fault Cursor
  | 0, c => .error (.json .endInString c.offset)
  | fuel + 1, c =>
    match c.rest with
    | [] => .error (.json .endInString c.offset)
    | '"' :: _ => .ok c.next
    | '\\' :: _ =>
      match skipEscape c.next with
      | .ok c => skipStringFrom fuel c
      | .error f => .error f
    | ch :: _ =>
      if isControl ch then .error (.json .controlCharacter c.offset)
      else skipStringFrom fuel c.next

/-- Passes over a string. -/
def skipString (c : Cursor) : Except Fault Cursor := skipStringFrom (c.rest.length + 1) c

end Json

end GridLayout
