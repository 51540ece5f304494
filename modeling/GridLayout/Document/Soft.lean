import GridLayout.Document.Fault
import GridLayout.Spec.Layout

/-!
# Operations from raw values

The arguments of an operation, and the dimension of a box, take any value at all: one of the right
shape for what it says, any other as it is, to be reported later.  So these readings cannot fail.

What can fail is the frame around them.  An operation is an object with one field that is named for
the operation, and its arguments come by name or in order; a list of operations stands alone or
under the names of breakpoints.  `Operation.ofValue?` and `Responsive.ofValue?` answer `none` for
anything else.  `Operation.ofInline` reads a single operation by itself, takes arguments by name
only, and says what is wrong.
-/

namespace GridLayout

variable {α : Type} [Scalar α]

/-! ## Plain parts -/

namespace Value

/-- The number that a value is. -/
def number? : Value α → Option α
  | .int n => some (Scalar.ofInt n)
  | .float x => some x
  | _ => none

/-- The integer that a value is, if it has no more than sixty-four bits. -/
def integer? : Value α → Option Int
  | .int n => if Number.isWord n then some n else none
  | _ => none

/-- The value of a field that occurs exactly once. -/
def uniqueField? (fields : List (String × Value α)) (key : String) : Option (Value α) :=
  match fields.filter fun e => e.1 == key with
  | [e] => some e.2
  | _ => none

/-- A value in the terms in which a mismatch is reported. -/
def found : Value α → Found
  | .null => .null
  | .bool b => .boolean b
  | .int n => .integer n
  | .float x => .floating (Scalar.token x)
  | .string s => .string s
  | .list _ => .sequence
  | .object _ => .map

end Value

/-- The coordinate that a value is: two numbers in a list, or under `x` and `y` with nothing else.
-/
def Coordinate.ofValue? : Value α → Option (Coordinate α)
  | .list [x, y] => do return ⟨← x.number?, ← y.number?⟩
  | .object fields =>
    if fields.length = 2 then do
      let x ← Value.uniqueField? fields "x"
      let y ← Value.uniqueField? fields "y"
      return ⟨← x.number?, ← y.number?⟩
    else none
  | _ => none

/-- The anchor reference that a value is: two strings in a list, or under `boxId` and `anchor`. -/
def AnchorRef.ofValue? : Value α → Option AnchorRef
  | .list [boxId, anchor] => do return ⟨← boxId.string?, ← anchor.string?⟩
  | .object fields => do
    let boxId ← Value.uniqueField? fields "boxId"
    let anchor ← Value.uniqueField? fields "anchor"
    return ⟨← boxId.string?, ← anchor.string?⟩
  | _ => none

/-- The box reference that a value is: a string in a list, or under `boxId`. -/
def BoxRef.ofValue? : Value α → Option BoxRef
  | .list [boxId] => do return ⟨← boxId.string?⟩
  | .object fields => do
    let boxId ← Value.uniqueField? fields "boxId"
    return ⟨← boxId.string?⟩
  | _ => none

/-! ## Arguments -/

/-- An argument of a shape that `read` knows. -/
def Param.ofValue {β : Type} (read : Value α → Option β) (v : Value α) : Param α β :=
  match read v with
  | some b => .valid b
  | none => .malformed v.canonical

/-- The target that a value is: a coordinate, a number or an anchor reference. -/
def Target.ofValue (v : Value α) : Target α :=
  match Coordinate.ofValue? v with
  | some c => .point c
  | none =>
    match v.number? with
    | some x => .value x
    | none =>
      match AnchorRef.ofValue? v with
      | some r => .anchor r
      | none => .malformed v.canonical

/-- The displacement that a value is: a coordinate or a number. -/
def Offset.ofValue (v : Value α) : Offset α :=
  match Coordinate.ofValue? v with
  | some c => .vector c
  | none =>
    match v.number? with
    | some x => .uniform x
    | none => .malformed v.canonical

/-- What a value is read as, unless it is `null`. -/
def unlessNull {β : Type} (read : Value α → β) : Value α → Option β
  | .null => none
  | v => some (read v)

/-- The dimension that a value is: a shape name, or entries by breakpoint. -/
def Dimension.ofValue : Value α → Dimension α
  | .string s => .uniform s
  | .object fields => .perBreakpoint (Value.canonicalFields fields)
  | v => .malformed v.canonical

/-! ## Operations -/

namespace Operation

/-- The operation of a name with its arguments; an argument that is not given is `null`. -/
def build? (verb : String) (arg : String → Value α) : Option (Operation α) :=
  let anchorRef := Param.ofValue AnchorRef.ofValue? (arg "from")
  let target := Target.ofValue (arg "to")
  let planeGap := unlessNull Offset.ofValue (arg "gap")
  let lineGap := unlessNull (Param.ofValue Value.number?) (arg "gap")
  let anchor := Param.ofValue Value.string? (arg "anchor")
  match verb with
  | "moveTo" => some (.moveTo anchorRef target planeGap)
  | "moveBy" =>
    some (.moveBy (Param.ofValue BoxRef.ofValue? (arg "from")) (Offset.ofValue (arg "by")) planeGap)
  | "alignToX" => some (.align .x anchorRef target lineGap)
  | "alignToY" => some (.align .y anchorRef target lineGap)
  | "alignAllToX" => some (.alignAll .x target anchor lineGap)
  | "alignAllToY" => some (.alignAll .y target anchor lineGap)
  | "stackHorizontally" => some (.stack .x lineGap)
  | "stackVertically" => some (.stack .y lineGap)
  | _ => none

/-- The names of the arguments of an operation, in their order. -/
def parameters (verb : String) : List String :=
  match verb with
  | "moveTo" | "alignToX" | "alignToY" => ["from", "to", "gap"]
  | "moveBy" => ["from", "by", "gap"]
  | "alignAllToX" | "alignAllToY" => ["to", "anchor", "gap"]
  | _ => ["gap"]

/-- The argument of a name among some fields. -/
def fieldArgument (fields : List (String × Value α)) (name : String) : Value α :=
  (fields.lookup name).getD .null

/-- The arguments of an operation, in order or by name.  There may not be more than there are
parameters, and none twice. -/
def arguments? (names : List String) : Value α → Option (String → Value α)
  | .list items =>
    if items.length ≤ names.length then some (fieldArgument (names.zip items)) else none
  | .object fields =>
    if names.all fun n => (fields.filter fun e => e.1 == n).length ≤ 1 then
      some (fieldArgument fields)
    else none
  | _ => none

/-- The operation that a value is. -/
def ofValue? : Value α → Option (Operation α)
  | .object [(verb, args)] => do
    let arg ← arguments? (parameters verb) args
    build? verb arg
  | _ => none

/-- A single operation by itself, or what is wrong with it. -/
def ofInline : Value α → Except Mismatch (Operation α)
  | .string s =>
    if s ∈ verbs then .error (.wrongType .bareName "struct variant")
    else .error (.unknownName s verbs)
  | .object [(verb, args)] =>
    if verb ∈ verbs then
      match args with
      | .object fields =>
        match build? verb (fieldArgument fields) with
        | some op => .ok op
        | none => .error (.unknownName verb verbs)
      | v => .error (.wrongType v.found "struct variant")
    else .error (.unknownName verb verbs)
  | .object _ => .error (.wrongValue .map "map with a single key")
  | v => .error (.wrongType v.found "string or map")

end Operation

/-! ## Values for breakpoints -/

/-- The values for some breakpoints that an object holds. -/
def Bps.ofFields? {β : Type} (read : Value α → Option β) :
    List (String × Value α) → Option (Bps (Option β))
  | [] => some (Bps.splat none)
  | (key, v) :: rest => do
    let bp ← Breakpoint.ofName? key
    let b ← read v
    let others ← Bps.ofFields? read rest
    return if (others.get bp).isSome then others else others.set bp (some b)

/-- What a value is read as: one thing for all breakpoints, or things under the names of some. -/
def Responsive.ofValue? {β : Type} (read : Value α → Option β) (v : Value α) :
    Option (Responsive β) :=
  match read v with
  | some b => some (.uniform b)
  | none =>
    match v with
    | .object fields => (Bps.ofFields? read fields).map .perBreakpoint
    | _ => none

/-- The operations that a value lists. -/
def Operation.listOfValue? : Value α → Option (List (Operation α))
  | .list items => items.mapM Operation.ofValue?
  | _ => none

/-- The operations that a value has for the breakpoints. -/
def Schedule.ofValue? (v : Value α) : Option (Schedule α) :=
  Responsive.ofValue? Operation.listOfValue? v

end GridLayout
