import GridLayout.Document.Node
import GridLayout.IdMap

/-!
# Reading trees

Readers of the kinds of things that a document is made of: numbers, texts, lists, maps, names of
alternatives, and records.  A reader goes through a tree from front to back and gives back the first
fault it meets.

A record is described by its `Field`s.  It may come as an object, whose unknown fields are passed
over, or as a list of the fields in their order.
-/

namespace GridLayout

namespace Node

/-! ## Single values -/

/-- A number. -/
def number (format : Format) : Node → Except Fault Float
  | .atom (.int n) _ => .ok (Number.nearestInt n)
  | .atom (.float x) _ => .ok x
  | node => .error (node.wrongType format "f64")

/-- A text. -/
def text (format : Format) : Node → Except Fault String
  | .atom (.string s) _ => .ok s
  | node => .error (node.wrongType format "a string")

/-- An integer of sixty-four bits. -/
def integer (format : Format) (node : Node) : Except Fault Int :=
  match node with
  | .atom (.int n) _ =>
    if Number.isWord n then .ok n
    else .error (.mismatch (.wrongValue (.integer n) "i64") (format.typeSpan node))
  | node => .error (node.wrongType format "i64")

/-- A value that may be left open with `null`. -/
def optional {β : Type} (read : Node → Except Fault β) : Node → Except Fault (Option β)
  | .atom .null _ => .ok none
  | node => (read node).map some

/-! ## Lists -/

/-- The end of a list that has been read to its last place.  JSON holds on to its end, and TOML lets
more items pass. -/
def closeItems (format : Format) (items : List Node) (ending : Option Break) : Except Fault Unit :=
  match format, items, ending with
  | .toml, _, _ => .ok ()
  | .json, [], none => .ok ()
  | .json, [], some b => .error b.close
  | .json, item :: _, _ => .error (.json .trailingText (item.place.span.start + 1))

/-- A list of any length. -/
def listOf {β : Type} (format : Format) (read : Node → Except Fault β) :
    Node → Except Fault (List β)
  | .list items ending _ => do
    let values ← items.mapM read
    endValue ending
    return values
  | node => .error (node.wrongType format "a sequence")

/-- Two numbers. -/
def pair (format : Format) (expected : String) (node : Node) : Except Fault (Float × Float) :=
  match node with
  | .list items ending place => do
    let short (n : Nat) : Fault := .mismatch (.wrongLength n expected) (format.contentsSpan place)
    match items with
    | [] =>
      endValue ending
      throw (short 0)
    | [a] =>
      let _ ← a.number format
      endValue ending
      throw (short 1)
    | a :: b :: rest =>
      let x ← a.number format
      let y ← b.number format
      closeItems format rest ending
      return (x, y)
  | node => .error (node.wrongType format expected)

/-! ## Fields -/

/-- The fields of an object, and of a date, which is read as an object of one field. -/
def fields? : Node → Option (List (Key × Node) × Option Break)
  | .object fields ending _ => some (fields, ending)
  | .atom (.date t) place =>
    some ([(⟨.ok dateKey, place.span, place.resume⟩, .atom (.string t) place)], none)
  | _ => none

/-- Values under any keys.  Of two equal keys the later counts, in the place of the first. -/
def mapOf {β : Type} (format : Format) (expected : String) (read : Node → Except Fault β)
    (node : Node) : Except Fault (IdMap β) :=
  match node.fields? with
  | some (fields, ending) => do
    let entries ← fields.mapM fun (key, v) => do
      let k ← key.text
      let b ← read v
      return (k, b)
    endValue ending
    return IdMap.ofList entries
  | none => .error (node.wrongType format expected)

/-! ## Names of alternatives -/

/-- The alternative of a name. -/
def alternative {β : Type} (known : List (String × β)) (name : String) (span : Span) :
    Except Fault β :=
  match known.lookup name with
  | some b => .ok b
  | none => .error (.mismatch (.unknownName name (known.map Prod.fst)) span)

/-- The kind of a TOML value without parts. -/
def atomKind : Atom → String
  | .bool _ => "boolean"
  | .int _ => "integer"
  | .float _ => "float"
  | .string _ => "string"
  | .date _ => "datetime"
  | _ => "none"

/-- An alternative named by the only key of a JSON object, whose value is `null`. -/
def namedByKey {β : Type} (known : List (String × β)) (fields : List (Key × Node))
    (ending : Option Break) (place : Place) : Except Fault β := do
  checkLevel place
  match fields with
  | [] =>
    match ending with
    | some b => throw b.name
    | none => throw (.json .valueExpected place.span.stop)
  | (key, v) :: rest =>
    let name ← key.text
    let b ← alternative known name (.point key.span.stop)
    match v with
    | .atom .null _ => pure ()
    | v => throw (v.wrongType .json "unit")
    match rest, ending with
    | [], none => return b
    | [], some e => throw e.close
    | _ :: _, _ => throw (.json .valueExpected v.place.resume)

/-- An alternative named by the only key of a TOML table, whose value is empty. -/
def namedByEmptyTable {β : Type} (known : List (String × β)) (fields : List (Key × Node))
    (place : Place) : Except Fault β :=
  match fields with
  | [(key, v)] => do
    let name ← key.text
    let b ← alternative known name key.span
    match v with
    | .list [] _ _ => return b
    | .object [] _ _ => return b
    | .atom a p => throw (.mismatch (.notTable (atomKind a)) p.span)
    | v => throw (.mismatch .notEmpty v.place.span)
  | fields => .error (.mismatch (.wrongEntryCount fields.length) place.span)

/-- One of some alternatives, by its name. -/
def name {β : Type} (format : Format) (known : List (String × β)) (node : Node) :
    Except Fault β :=
  match format, node with
  | _, .atom (.string s) _ => alternative known s (format.typeSpan node)
  | _, .atom (.badString f) _ => .error f
  | .json, .object fields ending place => namedByKey known fields ending place
  | .json, .broken b _ => .error b.name
  | .json, node => .error (.json .valueExpected (node.place.span.start + 1))
  | .toml, .object fields _ place => namedByEmptyTable known fields place
  | .toml, node => .error (.mismatch .notNamed node.place.span)

end Node

/-! ## Records -/

/-- A field of a record that is being read into a value of type `σ`. -/
structure Field (σ : Type) where
  name : String
  /-- Whether a list of fields may end before this one. -/
  mayMiss : Bool
  read : Node → Except Fault (σ → σ)

namespace Node

variable {σ : Type}

/-- The words for a record given as a list. -/
def recordText (title : String) (count : Nat) : String :=
  if count == 1 then s!"struct {title} with 1 element" else s!"struct {title} with {count} elements"

/-- Reads the fields of a record in their order. -/
def positions (format : Format) (short : Nat → Fault) :
    List (Field σ) → Nat → σ → List Node → Option Break → Except Fault σ
  | [], _, s, items, ending => do
    closeItems format items ending
    return s
  | _ :: _, _, _, [], some b => .error b.value
  | f :: fs, n, s, [], none =>
    if f.mayMiss then positions format short fs (n + 1) s [] none else .error (short n)
  | f :: fs, n, s, item :: rest, ending => do
    let put ← f.read item
    positions format short fs (n + 1) (put s) rest ending

/-- Reads the fields of a record by their names. -/
def namedFields (format : Format) (fields : List (Field σ)) :
    List String → σ → List (Key × Node) → Except Fault σ
  | _, s, [] => .ok s
  | seen, s, (key, v) :: rest => do
    let name ← key.text
    match fields.find? fun f => f.name == name with
    | none =>
      v.skip
      namedFields format fields seen s rest
    | some f =>
      if name ∈ seen then
        throw (.mismatch (.repeatedField name) (format.keySpan key))
      let put ← f.read v
      namedFields format fields (name :: seen) (put s) rest

/-- A record.  `start` holds what counts for the fields that are not given. -/
def record (format : Format) (title : String) (fields : List (Field σ)) (start : σ)
    (node : Node) : Except Fault σ :=
  match node with
  | .list items ending place =>
    positions format (fun n =>
        .mismatch (.wrongLength n (recordText title fields.length)) (format.contentsSpan place))
      fields 0 start items ending
  | node =>
    match node.fields? with
    | some (given, ending) => do
      let s ← namedFields format fields [] start given
      endValue ending
      return s
    | none => .error (node.wrongType format s!"struct {title}")

end Node

end GridLayout
