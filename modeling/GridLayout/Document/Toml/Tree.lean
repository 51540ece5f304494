import GridLayout.Document.Toml.Value

/-!
# Trees of TOML texts

A TOML text is a sequence of lines: a key with its value, a header that opens a table, or a header
in double brackets that opens one more table of an array.  Keys go into the table that was opened
last. `Reader` holds that table apart from the rest until the next header, or the end of the text,
puts it in its place.
-/

namespace GridLayout

namespace Toml

/-! ## Tables by headers -/

/-- What has been read: the finished tables, and the one that is open. -/
structure Reader where
  root : Table
  openTable : Table
  /-- The keys of the header of the open table; none for the keys before any header. -/
  path : List Name
  /-- Whether the open table is one of an array. -/
  inArray : Bool

/-- A table with a place. -/
def placedTable (span : Span) (entries : Entries) : Table :=
  ⟨⟨false, false, false, some span⟩, entries⟩

namespace Reader

/-- Nothing has been read. -/
def start : Reader := ⟨placedTable ⟨0, 0⟩ [], placedTable ⟨0, 0⟩ [], [], false⟩

/-- The way that headers go. -/
def headerWay : Way := ⟨false, false⟩

/-- The texts of some keys. -/
def texts (path : List Name) : List String := path.map Name.text

/-- The failure of a header whose table is already there. -/
def taken {β : Type} (before : List Name) (last : Name) : Except TomlReason β :=
  .error (.repeatedKey last.text (some (texts before)))

/-- Puts the open table in its place. -/
def close (r : Reader) : Except TomlReason Table :=
  match r.path.reverse with
  | [] => .ok r.openTable
  | last :: reversed =>
    let before := reversed.reverse
    let place (parent : Table) : Except TomlReason (Unit × Table) :=
      let table := (r.openTable.origin, r.openTable.entries)
      let append (item : Item) : Except TomlReason (Unit × Table) :=
        .ok ((), { parent with entries := parent.entries ++ [(last, item)] })
      let put (item : Item) : Except TomlReason (Unit × Table) :=
        .ok ((), { parent with entries := replace last.text item parent.entries })
      match r.inArray, lookup? last.text parent.entries with
      | true, none => append (.tables [table])
      | true, some (.tables others) => put (.tables (table :: others))
      | false, none => append (.table table.1 table.2)
      | _, some _ => taken before last
    (enter headerWay place before [] r.root).map Prod.snd

/-- Opens the table of a header.  A table that was only passed through is taken out of its place,
with what it holds. -/
def openHeader (root : Table) (path : List Name) (span : Span) : Except TomlReason Reader :=
  match path.reverse with
  | [] => .ok ⟨root, placedTable span [], [], false⟩
  | last :: reversed => do
    let before := reversed.reverse
    let take (parent : Table) : Except TomlReason (Entries × Table) :=
      match lookup? last.text parent.entries with
      | none => .ok ([], parent)
      | some (.table origin entries) =>
        if origin.implicit && !origin.dotted && !origin.inline then
          .ok (entries, { parent with entries := remove last.text parent.entries })
        else taken before last
      | some _ => taken before last
    let (entries, root) ← enter headerWay take before [] root
    return ⟨root, placedTable span entries, path, false⟩

/-- Opens one more table of an array. -/
def openArray (root : Table) (path : List Name) (span : Span) : Except TomlReason Reader :=
  match path.reverse with
  | [] => .ok ⟨root, placedTable span [], [], true⟩
  | last :: reversed => do
    let before := reversed.reverse
    let look (parent : Table) : Except TomlReason (Unit × Table) :=
      match lookup? last.text parent.entries with
      | none => .ok ((), { parent with entries := parent.entries ++ [(last, .tables [])] })
      | some (.tables _) => .ok ((), parent)
      | some _ => taken before last
    let (_, root) ← enter headerWay look before [] root
    return ⟨root, placedTable span [], path, true⟩

/-- Puts a key and its value into the open table. -/
def put (r : Reader) (names : List Name) (item : Item) (stop : Nat) :
    Except TomlReason Reader :=
  match names.reverse with
  | [] => .ok r
  | last :: reversed => do
    let origin := r.openTable.origin
    let grown := { origin with span := origin.span.map fun s => ⟨s.start, stop⟩ }
    let t ← insertKey ⟨true, false⟩ (some (texts r.path)) reversed.reverse last item
      { r.openTable with origin := grown }
    return { r with openTable := t }

end Reader

/-! ## Lines -/

/-- A reason as the failure of what starts at a cursor. -/
def becauseOf {β : Type} (c : Cursor) (r : Except TomlReason β) : Except Failure β :=
  match r with
  | .ok b => .ok b
  | .error reason => .error ⟨false, c.offset, ⟨none, [], some reason⟩⟩

/-- A key with its value, to the end of the line. -/
def keyLine (r : Reader) (c : Cursor) : Except Failure (Reader × Cursor) := do
  let (names, behind) ← key c
  let (_, behind) ← equalsSign behind
  let start := blanks behind
  let (item, behind) ← final (value (4 * c.rest.length + 4) 0 start)
  let stop := behind.offset
  let (_, behind) ← final (lineTrailing behind)
  let r ← becauseOf c (r.put names item stop)
  return (r, behind)

/-- A header between brackets, to the end of the line. -/
def headerLine (opening closing : String)
    (go : Table → List Name → Span → Except TomlReason Reader) (r : Reader) (c : Cursor) :
    Except Failure (Reader × Cursor) := do
  let (_, behind) ← word opening c
  let (names, behind) ← final (key behind)
  let (_, behind) ← expecting ["`.`", s!"`{closing}`"] (final (word closing behind))
  let stop := behind.offset
  let (_, behind) ← final (lineTrailing behind)
  let root ← becauseOf c r.close
  let r ← becauseOf c (go root names ⟨c.offset, stop⟩)
  return (r, behind)

/-- A header, to the end of the line. -/
def tableLine (r : Reader) (c : Cursor) : Step Reader :=
  reading "table header" (
    if c.next.rest.isEmpty then failAt c
    else if (c.word? "[[").isSome then headerLine "[[" "]]" Reader.openArray r c
    else headerLine "[" "]" Reader.openHeader r c)

/-- The lines of a text. -/
def linesFrom : Nat → Reader → Cursor → Step Reader
  | 0, r, c => .ok (r, c)
  | fuel + 1, r, c =>
    let c := blanks c
    let step : Step Reader :=
      match c.rest with
      | [] => .ok (r, c)
      | '#' :: _ =>
        let behind := comment c
        match newline? behind with
        | some next => .ok (r, next)
        | none => if behind.rest.isEmpty then .ok (r, behind) else failAt behind
      | '[' :: _ => tableLine r c
      | '\n' :: _ => .ok (r, c.next)
      | '\r' :: _ =>
        match newline? c with
        | some next => .ok (r, next)
        | none => failAt c
      | _ => keyLine r c
    match step with
    | .error f => .error f
    | .ok (r, behind) => if behind.rest.isEmpty then .ok (r, behind) else linesFrom fuel r behind

/-! ## Whole texts -/

/-- The character that may mark a text as Unicode. -/
def byteOrderMark : Char := '\ufeff'

/-- The range of the character at an offset; nothing at the end of the text. -/
def charSpan (offset : Nat) : List Char → Nat → Span
  | [], here => ⟨here, here⟩
  | c :: rest, here =>
    if offset < here + c.utf8Size then ⟨here, here + c.utf8Size⟩
    else charSpan offset rest (here + c.utf8Size)

/-- A failure as the fault of a text. -/
def Failure.fault (f : Failure) (source : String) : Fault :=
  ⟨.toml f.cause, some (charSpan f.offset source.toList 0)⟩

/-- The table of a text. -/
def tableOfText (c : Cursor) : Except Failure Table := do
  let c := if c.at? byteOrderMark then c.next else c
  let (r, behind) ← linesFrom (c.rest.length + 1) Reader.start c
  becauseOf behind r.close

/-- The tree of a text. -/
def ofText (source : String) : Except Fault Node :=
  match tableOfText (Cursor.ofText source) with
  | .ok t => .ok t.toNode
  | .error f => .error (f.fault source)

end Toml

end GridLayout
