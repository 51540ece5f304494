import GridLayout.Document.Fault
import GridLayout.Value

/-!
# Documents as trees

A document is read in two steps: its text becomes a tree of `Node`s, and the tree is taken for a
layout.  The first step knows the format and nothing of layouts, the second knows layouts and hardly
anything of the format.

## Faults inside the tree

The first fault of a document is the one that is reported, whether the text or its meaning is at
fault.  A text that ends in a fault is therefore still a tree, up to the fault; the fault is a leaf
of the tree, a `Break`, and is found when that leaf is reached.  What exactly is said depends on
what the text was expected to be at that point, so a `Break` has one fault for each expectation.

Some faults harm only a value that is looked at, such as a number that is too large for any double.
They are atoms of the tree, and are passed over along with the values that nobody asks for.
-/

namespace GridLayout

/-! ## Parts of a tree -/

/-- The formats of documents. -/
inductive Format where
  | json
  | toml
  deriving DecidableEq, Repr

/-- Where a value stands in the text. -/
structure Place where
  span : Span
  /-- The offset at which reading goes on: after the blanks behind the value, and after the bracket
  that closes what the value stands in, if that comes next. -/
  resume : Nat
  /-- The number of brackets open at the first character of the value, its own counted. -/
  level : Nat
  deriving DecidableEq, Repr

/-- A value without parts. -/
inductive Atom where
  | null
  | bool (b : Bool)
  | int (n : Int)
  | float (x : Float)
  | string (s : String)
  | date (text : String)
  /-- A number that no number type holds. -/
  | badNumber (fault : Fault)
  /-- A string that is no text. -/
  | badString (fault : Fault)

/-- What is wrong with a text from some point on. -/
structure Break where
  /-- When one more value was expected. -/
  value : Fault
  /-- When nothing more was expected. -/
  close : Fault
  /-- When the value was passed over. -/
  skipped : Fault
  /-- When the name of an alternative was expected. -/
  name : Fault

/-- A text that is wrong in one way, whatever was expected. -/
def Break.same (fault : Fault) : Break := ⟨fault, fault, fault, fault⟩

/-- The key of a field. -/
structure Key where
  text : Except Fault String
  span : Span
  /-- The offset at which reading goes on, as in `Place`. -/
  resume : Nat

/-- A tree. -/
inductive Node where
  | atom (value : Atom) (place : Place)
  | list (items : List Node) (ending : Option Break) (place : Place)
  | object (fields : List (Key × Node)) (ending : Option Break) (place : Place)
  | broken (fault : Break) (place : Place)

namespace Node

/-- Where a value stands. -/
def place : Node → Place
  | .atom _ p => p
  | .list _ _ p => p
  | .object _ _ p => p
  | .broken _ p => p

/-! ## Passing over a value -/

/-- The fault that an ending is, if it is one. -/
def endSkipped : Option Break → Except Fault Unit
  | none => .ok ()
  | some b => .error b.skipped

mutual

/-- Passes over a value. -/
def skip : Node → Except Fault Unit
  | .atom .. => .ok ()
  | .list items ending _ => do skipItems items; endSkipped ending
  | .object fields ending _ => do skipFields fields; endSkipped ending
  | .broken b _ => .error b.skipped

/-- Passes over items. -/
def skipItems : List Node → Except Fault Unit
  | [] => .ok ()
  | item :: rest => do skip item; skipItems rest

/-- Passes over fields. -/
def skipFields : List (Key × Node) → Except Fault Unit
  | [] => .ok ()
  | (_, v) :: rest => do skip v; skipFields rest

end

/-! ## Taking a value as it is -/

/-- The greatest number of brackets that may be open in a value that is looked at. -/
def levelLimit : Nat := 127

/-- The key under which the text of a date stands, a date being read as a table of one field. -/
def dateKey : String := "$__toml_private_datetime"

/-- A bracket that opens too many. -/
def checkLevel (place : Place) : Except Fault Unit :=
  if place.level ≤ levelLimit then .ok ()
  else .error (.json .tooDeep (place.span.start + 1))

/-- The fault that an ending is when one more value was expected. -/
def endValue : Option Break → Except Fault Unit
  | none => .ok ()
  | some b => .error b.value

/-- A value without parts, as it is. -/
def rawAtom : Atom → Except Fault (Value Float)
  | .null => .ok .null
  | .bool b => .ok (.bool b)
  | .int n => .ok (.int n)
  | .float x => .ok (.float x)
  | .string s => .ok (.string s)
  | .date text => .ok (.object [(dateKey, .string text)])
  | .badNumber fault => .error fault
  | .badString fault => .error fault

mutual

/-- A value as it is, fields in their order and repeated ones included. -/
def raw : Node → Except Fault (Value Float)
  | .atom a _ => rawAtom a
  | .list items ending place => do
    checkLevel place
    let values ← rawItems items
    endValue ending
    return .list values
  | .object fields ending place => do
    checkLevel place
    let values ← rawFields fields
    endValue ending
    return .object values
  | .broken b _ => .error b.value

/-- Items as they are. -/
def rawItems : List Node → Except Fault (List (Value Float))
  | [] => .ok []
  | item :: rest => do
    let v ← raw item
    let vs ← rawItems rest
    return v :: vs

/-- Fields as they are. -/
def rawFields : List (Key × Node) → Except Fault (List (String × Value Float))
  | [] => .ok []
  | (key, item) :: rest => do
    let k ← key.text
    let v ← raw item
    let vs ← rawFields rest
    return (k, v) :: vs

end

end Node

/-! ## Pointing at a value -/

/-- The text of a fractional number in a mismatch. -/
def Format.floatText (format : Format) (x : Float) : String :=
  match format with
  | .json => Number.token x
  | .toml =>
    let t := Number.plain x
    if x.isFinite && !t.contains '.' then t ++ ".0" else t

/-- The place that a value of the wrong type points at.  In JSON that is the offset at which reading
stopped: a value without parts has been read, and one with parts has not been entered. -/
def Format.typeSpan (format : Format) (node : Node) : Span :=
  match format, node with
  | .toml, _ => node.place.span
  | .json, .list .. => .point node.place.span.start
  | .json, .object .. => .point node.place.span.start
  | .json, _ => .point node.place.span.stop

/-- The place that a value with the wrong contents points at. -/
def Format.contentsSpan (format : Format) (place : Place) : Span :=
  match format with
  | .toml => place.span
  | .json => .point place.span.stop

/-- The place that a value points at when it is refused only after it has been taken as it is. -/
def Format.afterSpan (format : Format) (place : Place) : Span :=
  match format with
  | .toml => place.span
  | .json => .point place.resume

/-- The place that a repeated key points at. -/
def Format.keySpan (format : Format) (key : Key) : Span :=
  match format with
  | .toml => key.span
  | .json => .point key.resume

/-- A value that is not of the type that has to be there. -/
def Node.wrongType (format : Format) (expected : String) (node : Node) : Fault :=
  let fault (found : Found) : Fault :=
    .mismatch (.wrongType found expected) (format.typeSpan node)
  match node with
  | .atom .null _ => fault .null
  | .atom (.bool b) _ => fault (.boolean b)
  | .atom (.int n) _ => fault (.integer n)
  | .atom (.float x) _ => fault (.floating (format.floatText x))
  | .atom (.string s) _ => fault (.string s)
  | .atom (.date _) _ => fault .map
  | .atom (.badNumber f) _ => f
  | .atom (.badString f) _ => f
  | .list .. => fault .sequence
  | .object .. => fault .map
  | .broken b _ => b.value

end GridLayout
