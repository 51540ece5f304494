import GridLayout.Document.Node

/-!
# TOML tables

A table grows entry by entry while its text is read, and keys with dots and headers reach into
tables within tables.  What is allowed depends on how a table came about:

* a table that was only passed through on the way to another is implicit, and a header of its own
  may still define it;
* a table made by a dotted key can be extended by dotted keys of the same place, and by nothing
  else;
* a table in braces is complete.

`enter` follows a path of keys into a table, makes the tables that are missing, and refuses what may
not be extended; `insertKey` puts an entry there.
-/

namespace GridLayout

namespace Toml

/-! ## Items -/

/-- A key and where it stands. -/
structure Name where
  text : String
  span : Span
  deriving DecidableEq, Repr

/-- How a table came about. -/
structure Origin where
  implicit : Bool
  dotted : Bool
  /-- Whether the table stands in braces. -/
  inline : Bool
  span : Option Span

/-- A value of a table. -/
inductive Item where
  | atom (a : Atom) (span : Span)
  | array (items : List Item) (span : Span)
  | table (origin : Origin) (entries : List (Name × Item))
  /-- Tables that share a header in double brackets, the last one first. -/
  | tables (reversed : List (Origin × List (Name × Item)))

/-- The entries of a table. -/
abbrev Entries := List (Name × Item)

/-- A table. -/
structure Table where
  origin : Origin
  entries : Entries

/-- The kind of a value that is no table. -/
def Item.kind : Item → String
  | .atom a _ => match a with
    | .string _ => "string"
    | .int _ => "integer"
    | .float _ => "float"
    | .bool _ => "boolean"
    | .date _ => "datetime"
    | _ => "none"
  | .array .. => "array"
  | .table .. => "inline table"
  | .tables .. => "array of tables"

/-- A table that is only passed through. -/
def passage (dotted inline : Bool) : Table := ⟨⟨true, dotted, inline, none⟩, []⟩

/-! ## Following paths -/

/-- The value of a key. -/
def lookup? (key : String) (entries : Entries) : Option Item :=
  (entries.find? fun e => e.1.text == key).map Prod.snd

/-- Replaces the value of a key. -/
def replace (key : String) (item : Item) (entries : Entries) : Entries :=
  entries.map fun e => if e.1.text = key then (e.1, item) else e

/-- Removes a key. -/
def remove (key : String) (entries : Entries) : Entries := entries.filter fun e => e.1.text != key

/-- The way into a table: whether by a dotted key, and whether within braces. -/
structure Way where
  dotted : Bool
  inline : Bool

/-- Whether a table lets dotted keys pass through it. -/
def Way.passes (way : Way) (origin : Origin) : Bool := !way.dotted || origin.implicit

/-- Follows a path into a table and changes the table at its end. -/
def enter {β : Type} (way : Way) (change : Table → Except TomlReason (β × Table)) :
    List Name → List String → Table → Except TomlReason (β × Table)
  | [], _, t => change t
  | key :: rest, done, t => do
    let path := done ++ [key.text]
    match lookup? key.text t.entries with
    | none =>
      let (b, inner) ← enter way change rest path (passage way.dotted way.inline)
      return (b, { t with entries := t.entries ++ [(key, .table inner.origin inner.entries)] })
    | some (.table origin entries) =>
      if origin.inline && !way.inline then throw (.notTable path "inline table")
      if !way.passes origin then throw (.repeatedKey key.text none)
      let (b, inner) ← enter way change rest path ⟨origin, entries⟩
      return (b, { t with
        entries := replace key.text (.table inner.origin inner.entries) t.entries })
    | some (.tables ((origin, entries) :: others)) =>
      let (b, inner) ← enter way change rest path ⟨origin, entries⟩
      return (b, { t with
        entries := replace key.text (.tables ((inner.origin, inner.entries) :: others)) t.entries })
    | some item => throw (.notTable path item.kind)

/-- Puts an entry into a table at the end of a path.  `owner` is the path of the table, where it has
a header. -/
def insertKey (way : Way) (owner : Option (List String)) (path : List Name) (key : Name)
    (item : Item) (t : Table) : Except TomlReason Table := do
  let change (t : Table) : Except TomlReason (Unit × Table) :=
    if t.origin.dotted == path.isEmpty then .error (.repeatedKey key.text none)
    else
      match lookup? key.text t.entries with
      | some _ => .error (.repeatedKey key.text owner)
      | none => .ok ((), { t with entries := t.entries ++ [(key, item)] })
  let (_, t) ← enter way change path [] t
  return t

/-! ## Trees -/

mutual

/-- A value as a tree.  A table without a place of its own stands where its key stands. -/
def Item.toNode (key : Span) : Item → Node
  | .atom a span => .atom a ⟨span, 0, 0⟩
  | .array items span => .list (itemNodes span items) none ⟨span, 0, 0⟩
  | .table origin entries => .object (entryNodes entries) none ⟨origin.span.getD key, 0, 0⟩
  | .tables reversed =>
    let nodes := (tableNodes key reversed).reverse
    let first := (nodes.head?.map fun n => n.place.span).getD key
    let last := (nodes.getLast?.map fun n => n.place.span).getD key
    .list nodes none ⟨⟨first.start, last.stop⟩, 0, 0⟩

/-- Values as trees. -/
def itemNodes (key : Span) : List Item → List Node
  | [] => []
  | item :: rest => item.toNode key :: itemNodes key rest

/-- Entries as fields. -/
def entryNodes : List (Name × Item) → List (Key × Node)
  | [] => []
  | (name, item) :: rest =>
    (⟨.ok name.text, name.span, 0⟩, item.toNode name.span) :: entryNodes rest

/-- Tables as trees. -/
def tableNodes (key : Span) : List (Origin × List (Name × Item)) → List Node
  | [] => []
  | (origin, entries) :: rest =>
    .object (entryNodes entries) none ⟨origin.span.getD key, 0, 0⟩ :: tableNodes key rest

end

/-- A table as a tree. -/
def Table.toNode (t : Table) : Node := (Item.table t.origin t.entries).toNode ⟨0, 0⟩

end Toml

end GridLayout
