import GridLayout.Document.Json.Number
import GridLayout.Document.Json.Quoted
import GridLayout.Document.Node

/-!
# Trees of JSON texts

`ofText` turns any text into a tree.  It reads as far as a reader would get that passes over every
value, which is the farthest any reader gets, and notes on the way what a reader that looks closer
would object to.

A scan that meets the end of what can be read gives back its tree without a cursor; nothing after
that point is looked at.
-/

namespace GridLayout

namespace Json

/-! ## Places -/

/-- Whether a character is a blank between tokens. -/
def isBlank (c : Char) : Bool := c == ' ' || c == '\n' || c == '\t' || c == '\r'

/-- The cursor behind the blanks. -/
def blanks (c : Cursor) : Cursor := c.dropWhile isBlank

/-- What a value stands in. -/
inductive Within where
  | nothing
  | list
  | object
  deriving DecidableEq, Repr

/-- The offset at which reading goes on behind a value or a key. -/
def resumeAt (within : Within) (c : Cursor) : Nat :=
  let c := blanks c
  match within with
  | .nothing => c.offset
  | .list =>
    if c.at? ']' then c.offset + 1
    else if c.at? ',' then (blanks c.next).offset
    else c.offset
  | .object => if c.at? '\x7d' then c.offset + 1 else c.offset

/-! ## Scans -/

/-- A part of a tree, and the cursor behind it unless the text ends in a fault. -/
structure Scan (β : Type) where
  value : β
  behind : Option Cursor

/-- A fault at a place, as a tree. -/
def brokenAt (b : Break) (c : Cursor) : Scan Node :=
  ⟨.broken b ⟨⟨c.offset, c.offset⟩, c.offset, 0⟩, none⟩

/-- A fault that leaves the name of an alternative out of the question. -/
def Break.ofValue (value skipped : Fault) (start : Nat) : Break :=
  ⟨value, .json .trailingText (start + 1), skipped, .json .valueExpected (start + 1)⟩

/-- A value without parts, from one offset to another. -/
def atomScan (a : Atom) (start : Cursor) (behind : Cursor) (within : Within) (level : Nat) :
    Scan Node :=
  ⟨.atom a ⟨⟨start.offset, behind.offset⟩, resumeAt within behind, level⟩, some behind⟩

/-- Matches the letters of a word. -/
def matchWord : List Char → Cursor → Except Fault Cursor
  | [], c => .ok c
  | w :: ws, c =>
    match c.rest with
    | [] => .error (.json .endInValue c.offset)
    | ch :: _ =>
      if ch = w then matchWord ws c.next else .error (.json .wordExpected (c.offset + 1))

/-- Scans one of the words that are values. -/
def scanWord (word : String) (a : Atom) (c : Cursor) (within : Within) (level : Nat) : Scan Node :=
  match matchWord word.toList c with
  | .ok behind => atomScan a c behind within level
  | .error f => brokenAt (Break.ofValue f f c.offset) c

/-- Scans a number. -/
def scanNumber (c : Cursor) (within : Within) (level : Nat) : Scan Node :=
  match skipNumber c, readNumber c with
  | .ok behind, .ok (.int n, _) => atomScan (.int n) c behind within level
  | .ok behind, .ok (.float x, _) => atomScan (.float x) c behind within level
  | .ok behind, .error f => atomScan (.badNumber f) c behind within level
  | .error skipped, .error value => brokenAt (Break.ofValue value skipped c.offset) c
  | .error skipped, .ok _ => brokenAt (Break.ofValue skipped skipped c.offset) c

/-- Scans a string, as text or as a fault. -/
def scanText (c : Cursor) : Except Fault (Except Fault String × Cursor) × Fault :=
  let read := readString c.next
  let value : Fault := match read with
    | .error f => f
    | .ok _ => .json .endInString c.offset
  match skipString c.next with
  | .ok behind => (.ok (read.map Prod.fst, behind), value)
  | .error f => (.error f, value)

/-- Scans a string. -/
def scanString (c : Cursor) (within : Within) (level : Nat) : Scan Node :=
  match scanText c with
  | (.ok (.ok s, behind), _) => atomScan (.string s) c behind within level
  | (.ok (.error f, behind), _) => atomScan (.badString f) c behind within level
  | (.error skipped, value) =>
    brokenAt ⟨value, .json .trailingText (c.offset + 1), skipped, value⟩ c

/-- Items and what is wrong behind them. -/
abbrev ItemScan := Scan (List Node × Option Break)

/-- Fields and what is wrong behind them. -/
abbrev FieldScan := Scan (List (Key × Node) × Option Break)

/-- A list that ends in a fault. -/
def brokenItems (value close skipped : Fault) : ItemScan :=
  ⟨([], some ⟨value, close, skipped, value⟩), none⟩

/-- An object that ends in a fault. -/
def brokenFields (value close skipped name : Fault) : FieldScan :=
  ⟨([], some ⟨value, close, skipped, name⟩), none⟩

/-- The fault of a key that is no name of an alternative. -/
def nameFault (node : Node) : Fault := node.wrongType .json "variant identifier"

/-! ## Values -/

mutual

/-- Scans a value. -/
def scanValue : Nat → Nat → Within → Cursor → Scan Node
  | 0, _, _, c => brokenAt (Break.same (.json .endInValue c.offset)) c
  | fuel + 1, level, within, c =>
    let c := blanks c
    match c.rest with
    | [] => brokenAt (Break.same (.json .endInValue c.offset)) c
    | 'n' :: _ => scanWord "null" .null c within level
    | 't' :: _ => scanWord "true" (.bool true) c within level
    | 'f' :: _ => scanWord "false" (.bool false) c within level
    | '"' :: _ => scanString c within level
    | '[' :: _ =>
      let s := scanItems fuel (level + 1) true c.next
      let behind := s.behind.getD c
      ⟨.list s.value.1 s.value.2
        ⟨⟨c.offset, behind.offset⟩, resumeAt within behind, level + 1⟩, s.behind⟩
    | '\x7b' :: _ =>
      let s := scanFields fuel (level + 1) true c.next
      let behind := s.behind.getD c
      ⟨.object s.value.1 s.value.2
        ⟨⟨c.offset, behind.offset⟩, resumeAt within behind, level + 1⟩, s.behind⟩
    | ch :: _ =>
      if ch == '-' || isDigit ch then scanNumber c within level
      else brokenAt (Break.same (.json .valueExpected (c.offset + 1))) c

/-- Scans the items of a list up to its bracket. -/
def scanItems : Nat → Nat → Bool → Cursor → ItemScan
  | 0, _, _, c =>
    let f : Fault := .json .endInList c.offset
    brokenItems f f f
  | fuel + 1, level, first, c =>
    let c := blanks c
    match c.rest, first with
    | [], _ =>
      let f : Fault := .json .endInList c.offset
      brokenItems f f f
    | ']' :: _, _ => ⟨([], none), some c.next⟩
    | ',' :: _, false =>
      let c := blanks c.next
      match c.rest with
      | [] =>
        let f : Fault := .json .endInValue c.offset
        brokenItems f (.json .trailingText c.offset) f
      | ']' :: _ =>
        let f : Fault := .json .trailingComma (c.offset + 1)
        brokenItems f f (.json .valueExpected (c.offset + 1))
      | _ => scanItem fuel level c
    | _, true => scanItem fuel level c
    | _, false =>
      let f : Fault := .json .listEndExpected (c.offset + 1)
      brokenItems f (.json .trailingText (c.offset + 1)) f

/-- Scans an item and those behind it. -/
def scanItem : Nat → Nat → Cursor → ItemScan
  | 0, _, c =>
    let f : Fault := .json .endInList c.offset
    brokenItems f f f
  | fuel + 1, level, c =>
    let item := scanValue fuel level .list c
    match item.behind with
    | none => ⟨([item.value], none), none⟩
    | some behind =>
      let rest := scanItems fuel level false behind
      ⟨(item.value :: rest.value.1, rest.value.2), rest.behind⟩

/-- Scans the fields of an object up to its bracket. -/
def scanFields : Nat → Nat → Bool → Cursor → FieldScan
  | 0, _, _, c =>
    let f : Fault := .json .endInObject c.offset
    brokenFields f f f f
  | fuel + 1, level, first, c =>
    let c := blanks c
    let close : Fault := .json .valueExpected c.offset
    match c.rest, first with
    | [], _ =>
      let f : Fault := .json .endInObject c.offset
      brokenFields f f f (.json .endInValue c.offset)
    | '\x7d' :: _, _ => ⟨([], none), some c.next⟩
    | '"' :: _, true => scanField fuel level close c
    | ',' :: _, false =>
      let c := blanks c.next
      match c.rest with
      | [] =>
        brokenFields (.json .endInValue c.offset) close (.json .endInObject c.offset) close
      | '"' :: _ => scanField fuel level close c
      | '\x7d' :: _ =>
        brokenFields (.json .trailingComma (c.offset + 1)) close
          (.json .keyNotString (c.offset + 1)) close
      | _ =>
        let f : Fault := .json .keyNotString (c.offset + 1)
        brokenFields f close f close
    | _, true =>
      let f : Fault := .json .keyNotString (c.offset + 1)
      brokenFields f close f (nameFault (scanValue fuel level .object c).value)
    | _, false =>
      let f : Fault := .json .objectEndExpected (c.offset + 1)
      brokenFields f close f close

/-- Scans a field, at the quote of its key, and those behind it. -/
def scanField : Nat → Nat → Fault → Cursor → FieldScan
  | 0, _, close, _ => brokenFields close close close close
  | fuel + 1, level, close, c =>
    match scanText c with
    | (.error skipped, value) => brokenFields value close skipped value
    | (.ok (text, behind), _) =>
      let key : Key := ⟨text, ⟨c.offset, behind.offset⟩, resumeAt .object behind⟩
      let colon := blanks behind
      match colon.rest with
      | ':' :: _ =>
        let field := scanValue fuel level .object colon.next
        match field.behind with
        | none => ⟨([(key, field.value)], none), none⟩
        | some behind =>
          let rest := scanFields fuel level false behind
          ⟨((key, field.value) :: rest.value.1, rest.value.2), rest.behind⟩
      | [] =>
        let broken := brokenAt (Break.same (.json .endInObject colon.offset)) colon
        ⟨([(key, broken.value)], none), none⟩
      | _ =>
        let broken := brokenAt (Break.same (.json .colonExpected (colon.offset + 1))) colon
        ⟨([(key, broken.value)], none), none⟩

end

/-! ## Whole texts -/

/-- A tree and what is wrong with the text behind it. -/
structure Tree where
  root : Node
  trailing : Option Fault

/-- The tree of a text. -/
def Tree.ofText (source : String) : Tree :=
  let c := Cursor.ofText source
  let s := scanValue (4 * c.rest.length + 4) 0 .nothing c
  let trailing := s.behind.bind fun behind =>
    let behind := blanks behind
    if behind.rest.isEmpty then none else some (.json .trailingText (behind.offset + 1))
  ⟨s.value, trailing⟩

end Json

end GridLayout
