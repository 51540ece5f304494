import GridLayout.Document.Toml.Date
import GridLayout.Document.Toml.Quoted
import GridLayout.Document.Toml.Table

/-!
# TOML keys and values

Arrays and tables in braces hold values again, up to a limit of depth.  An item of an array that
cannot be read ends the array, and what is reported is that the array was not closed there; the same
goes for the keys of a table in braces.
-/

namespace GridLayout

namespace Toml

/-- The depth at which values stop to be read. -/
def depthLimit : Nat := 80

/-! ## Keys -/

/-- A key without dots. -/
def simpleKey (c : Cursor) : Step String :=
  if c.at? '"' then basicString c
  else if c.at? '\'' then literalString c
  else
    let (cs, behind) := c.takeWhile TomlReason.isBare
    if cs.isEmpty then failAt c else .ok (String.ofList cs, behind)

/-- A key without dots, between blanks. -/
def keyPart (c : Cursor) : Except Failure (Name × Cursor) := do
  let start := blanks c
  let (text, behind) ← simpleKey start
  return (⟨text, ⟨start.offset, behind.offset⟩⟩, blanks behind)

/-- The parts of a key behind its first. -/
def keyParts : Nat → Cursor → List Name → Step (List Name)
  | 0, c, acc => .ok (acc.reverse, c)
  | fuel + 1, c, acc =>
    if c.at? '.' then
      match optional c (keyPart c.next) with
      | .ok (some name, behind) => keyParts fuel behind (name :: acc)
      | .ok (none, _) => .ok (acc.reverse, c)
      | .error f => .error f
    else .ok (acc.reverse, c)

/-- A key: one part or several with dots between them. -/
def key (c : Cursor) : Except Failure (List Name × Cursor) := do
  let (first, behind) ← reading "key" (keyPart c)
  let (names, behind) ← reading "key" (keyParts (c.rest.length + 1) behind [first])
  if depthLimit ≤ names.length then return ← failFor c .tooDeep
  return (names, behind)

/-- The equals sign between a key and its value. -/
def equalsSign (c : Cursor) : Step Unit := expecting ["`.`", "`=`"] (final (char '=' c))

/-! ## Values without parts -/

/-- What stands where a value could be a string. -/
def asString {β : Type} (s : Step β) : Step β := expecting ["`\"`", "`'`"] (reading "string" s)

/-- A value of a step as an item, with its place. -/
def located {β : Type} (start : Cursor) (s : Step β) (make : β → Atom) : Step Item :=
  s.map fun (b, behind) => (.atom (make b) ⟨start.offset, behind.offset⟩, behind)

/-- A value that starts like a number. -/
def numeral (c : Cursor) : Step Item :=
  orElse (located c (dateTime c) .date) fun _ =>
    orElse (located c (float c) .float) fun _ => located c (integer c) .int

/-- A word that is a value. -/
def wordValue (w : String) (a : Atom) (c : Cursor) : Step Item :=
  asString (located c (word w c) fun _ => a)

/-- A value without parts. -/
def atomValue (c : Cursor) : Step Item :=
  match c.rest with
  | [] => failAt c
  | '"' :: _ => located c (string c) .string
  | '\'' :: _ => located c (string c) .string
  | '_' :: _ => expecting ["leading digit"] (located c (integer c) .int)
  | '.' :: _ => expecting ["leading digit"] (located c (float c) .float)
  | 't' :: _ => final (wordValue "true" (.bool true) c)
  | 'f' :: _ => final (wordValue "false" (.bool false) c)
  | 'i' :: _ => wordValue "inf" (.float (1.0 / 0.0)) c
  | 'n' :: _ => wordValue "nan" (.float (0.0 / 0.0)) c
  | ch :: _ =>
    if ch == '+' || ch == '-' || isDigit ch then numeral c else asString (failAt c)

/-! ## Values -/

/-- A key with its value in a table in braces. -/
abbrev Binding := List Name × Item

/-- The table of some bindings. -/
def inlineTable (bindings : List Binding) : Except TomlReason Table :=
  bindings.foldlM (fun t b =>
    match b.1.reverse with
    | [] => .ok t
    | last :: before => insertKey ⟨true, true⟩ none before.reverse last b.2 t)
    ⟨⟨false, false, true, none⟩, []⟩

mutual

/-- A value at a depth. -/
def value : Nat → Nat → Cursor → Step Item
  | 0, _, c => failAt c
  | fuel + 1, depth, c =>
    if c.at? '[' then
      if depthLimit ≤ depth + 1 then failFor c .tooDeep
      else
        match final (arrayItems fuel (depth + 1) c.next []) with
        | .error f => .error f
        | .ok (items, behind) =>
          match expecting ["`]`"] (reading "array" (final (char ']' behind))) with
          | .error f => .error f
          | .ok (_, behind) => .ok (.array items ⟨c.offset, behind.offset⟩, behind)
    else if c.at? '\x7b' then
      if depthLimit ≤ depth + 1 then failFor c .tooDeep
      else
        match final (bindings fuel (depth + 1) c.next) with
        | .error f => .error f
        | .ok (given, behind) =>
          match inlineTable given with
          | .error reason => final (failFor c.next reason)
          | .ok t =>
            match expecting ["`\x7d`"] (reading "inline table" (final (char '\x7d' behind))) with
            | .error f => .error f
            | .ok (_, behind) =>
              .ok (.table { t.origin with span := some ⟨c.offset, behind.offset⟩ } t.entries,
                behind)
    else atomValue c

/-- The items of an array, the comma and the spacing behind the last included. -/
def arrayItems : Nat → Nat → Cursor → List Item → Step (List Item)
  | 0, _, c, _ => failAt c
  | fuel + 1, depth, c, acc =>
    let close (c : Cursor) : Step (List Item) :=
      match spacing c with
      | .ok (_, behind) => .ok (acc.reverse, behind)
      | .error f => .error f
    match arrayItem fuel depth c with
    | .error f => if f.final then .error f else close c
    | .ok (item, behind) =>
      if behind.at? ',' then arrayItems fuel depth behind.next (item :: acc)
      else .ok ((item :: acc).reverse, behind)

/-- An item of an array, with the spacing around it. -/
def arrayItem : Nat → Nat → Cursor → Step Item
  | 0, _, c => failAt c
  | fuel + 1, depth, c =>
    match spacing c with
    | .error f => .error f
    | .ok (_, c) =>
      match value fuel depth c with
      | .error f => .error f
      | .ok (item, behind) =>
        match spacing behind with
        | .error f => .error f
        | .ok (_, behind) => .ok (item, behind)

/-- The bindings of a table in braces, and the blanks behind them. -/
def bindings : Nat → Nat → Cursor → Step (List Binding)
  | 0, _, c => failAt c
  | fuel + 1, depth, c =>
    match binding fuel depth c with
    | .error f => if f.final then .error f else .ok ([], blanks c)
    | .ok (b, behind) => bindingsBehind fuel depth behind [b]

/-- The bindings behind others, each after a comma.  A comma without a binding is left alone. -/
def bindingsBehind : Nat → Nat → Cursor → List Binding → Step (List Binding)
  | 0, _, c, _ => failAt c
  | fuel + 1, depth, c, acc =>
    if c.at? ',' then
      match binding fuel depth c.next with
      | .error f => if f.final then .error f else .ok (acc.reverse, c)
      | .ok (b, behind) => bindingsBehind fuel depth behind (b :: acc)
    else .ok (acc.reverse, c)

/-- A key and its value in a table in braces. -/
def binding : Nat → Nat → Cursor → Step Binding
  | 0, _, c => failAt c
  | fuel + 1, depth, c =>
    match key c with
    | .error f => .error f
    | .ok (names, behind) =>
      match equalsSign behind with
      | .error f => .error f
      | .ok (_, behind) =>
        match final (value fuel depth (blanks behind)) with
        | .error f => .error f
        | .ok (item, behind) => .ok ((names, item), blanks behind)

end

end Toml

end GridLayout
