import GridLayout.Arrange.Motion
import GridLayout.Diagnostic
import GridLayout.Grid.Area

/-!
# What a solve reports

Every stage of a solve names what it noticed as an `Issue`: the cause, with the things it is about.
How an issue is classified and worded is decided here, once for all stages, by `Issue.diagnostic`.

Details are kept in canonical form, as every raw value is.
-/

namespace GridLayout

/-! ## Causes -/

/-- A box of a section. -/
structure BoxPlace where
  sectionId : String
  boxId : String
  deriving DecidableEq, Repr

/-- Where an operation is carried out: at a breakpoint, on the boxes of a section or on the
sections. -/
structure Scope where
  bp : Breakpoint
  sectionId : Option String
  deriving DecidableEq, Repr

/-- The two lists that are compared when ids are put in order. -/
inductive OrderList where
  | ids
  | reference
  deriving DecidableEq, Repr

/-- The name of a list of ids in messages. -/
def OrderList.name : OrderList → String
  | .ids => "ids"
  | .reference => "reference"

/-- What a solve noticed. -/
inductive Issue (α : Type) where
  /-- The default size cannot be used. -/
  | defaultUnusable (size : α × α) (fallback : Coordinate α)
  /-- A box has no shape name at a breakpoint. -/
  | shapeMissing (box : BoxPlace) (bp : Breakpoint) (entry : Option (Value α))
    (fallback : Coordinate α)
  /-- A box has a dimension that is no dimension. -/
  | shapeMalformed (box : BoxPlace) (bp : Breakpoint) (raw : Value α) (fallback : Coordinate α)
  /-- A shape name is not in the catalog. -/
  | shapeUnknown (box : BoxPlace) (bp : Option Breakpoint) (shape : String)
    (fallback : Coordinate α)
  /-- A shape has a size that no box can have. -/
  | shapeInvalid (box : BoxPlace) (bp : Option Breakpoint) (shape : String) (size : α × α)
    (fallback : Coordinate α)
  /-- A box has no dimension and is left out. -/
  | noDimension (box : BoxPlace)
  /-- A section has no boxes at a breakpoint. -/
  | sectionEmpty (sectionId : String) (bp : Breakpoint)
  /-- An operation failed. -/
  | operation (scope : Scope) (verb : String) (failure : Failure α)
  /-- There are no boxes at a breakpoint. -/
  | gridEmpty (bp : Breakpoint)
  /-- Boxes started before the first line and were shifted. -/
  | gridShifted (bp : Breakpoint) (least shift : Coordinate α)
  /-- Two boxes overlap. -/
  | overlap (severity : Severity) (bp : Breakpoint) (a b : GridPlan.Placed α)
  /-- An id occurs again in a list. -/
  | orderRepeated (context : String) (id : String) (list : OrderList)
  /-- An id is in one of two lists only; `missing` is the list it is not in. -/
  | orderMismatch (context : String) (id : String) (missing : OrderList)
  deriving Repr

/-! ## Classification -/

/-- The code of a failed operation. -/
def Failure.code {α : Type} : Failure α → IssueCode
  | .malformed .. => .invalidTransformationParams
  | .notFinite .. => .invalidTransformationParams
  | .unknownBox .. => .unknownNodeId
  | .unknownAnchor .. => .unknownAnchor

namespace Issue

variable {α : Type}

/-- The code of an issue. -/
def code : Issue α → IssueCode
  | .defaultUnusable .. => .boxShapeInvalid
  | .shapeMissing .. => .boxShapeMissingBp
  | .shapeMalformed .. => .boxShapeMissingBp
  | .shapeUnknown .. => .boxShapeUnknown
  | .shapeInvalid .. => .boxShapeInvalid
  | .noDimension .. => .noBoxesProcessed
  | .sectionEmpty .. => .sectionEmpty
  | .operation _ _ failure => failure.code
  | .gridEmpty .. => .emptyGrid
  | .gridShifted .. => .gridNormalizedToPositiveLines
  | .overlap .. => .overlapNotAllowed
  | .orderRepeated .. => .duplicateKind
  | .orderMismatch .. => .nodeOrderMismatch

/-- The stage an issue comes from. -/
def origin : Issue α → Origin
  | .defaultUnusable .. => .boxShape
  | .shapeMissing .. => .boxShape
  | .shapeMalformed .. => .boxShape
  | .shapeUnknown .. => .boxShape
  | .shapeInvalid .. => .boxShape
  | .noDimension .. => .localLayout
  | .sectionEmpty .. => .sectionBounds
  | .operation .. => .transformation
  | .gridEmpty .. => .absoluteLayout
  | .gridShifted .. => .absoluteLayout
  | .overlap .. => .overlap
  | .orderRepeated .. => .ordering
  | .orderMismatch .. => .ordering

/-- How serious an issue is: a failed operation is an error, an overlap is what the policy says, and
all else is a warning. -/
def severity : Issue α → Severity
  | .operation .. => .error
  | .overlap severity .. => severity
  | _ => .warning

end Issue

/-! ## Wording -/

/-- Where an operation is carried out, in words. -/
def Scope.text (s : Scope) : String :=
  match s.sectionId with
  | some sectionId => s!" in section '{sectionId}' at {s.bp.name}"
  | none => s!" among sections at {s.bp.name}"

variable {α : Type} [Scalar α]

/-- A size in words. -/
def sizeText (width height : α) : String := s!"{Scalar.plain width}x{Scalar.plain height}"

/-- A coordinate that is not finite, as it was given: one number where both components are the
same. -/
def givenText (c : Coordinate α) : String :=
  if Scalar.same c.x c.y then Scalar.plain c.x
  else "\x7bx: " ++ Scalar.plain c.x ++ ", y: " ++ Scalar.plain c.y ++ "\x7d"

/-- The message about a failed operation. -/
def Failure.message (scope : Scope) (verb : String) : Failure α → String
  | .malformed argument expected raw =>
    s!"{verb}: '{argument.name}' must be {expected.text}{scope.text}, got {raw.text}"
  | .notFinite argument value =>
    s!"{verb}: '{argument.name}' must be finite{scope.text}, got {givenText value}"
  | .unknownBox boxId suggestions =>
    let hint := match suggestions with
      | [] => ""
      | first :: _ => s!" (did you mean '{first}'?)"
    s!"{verb}: unknown box '{boxId}'{scope.text}{hint}"
  | .unknownAnchor name _ =>
    s!"{verb}: unknown anchor '{name}'{scope.text} (valid anchors: {Anchor.names})"

/-- A text, or nothing. -/
def optionalText : Option String → Value α
  | some s => .string s
  | none => .null

/-- The details of a failed operation, before those of its place. -/
def Failure.details : Failure α → List (String × Value α)
  | .malformed argument _ raw => [("field", .string argument.name), ("value", raw)]
  | .notFinite argument value =>
    [("field", .string argument.name), ("value", .string (givenText value))]
  | .unknownBox boxId suggestions =>
    [("boxId", .string boxId), ("suggestions", .list (suggestions.map .string))]
  | .unknownAnchor name boxId => [("anchor", .string name), ("boxId", optionalText boxId)]

/-- The key of a pair of overlapping boxes: the breakpoint and the two names, the lesser first. -/
def pairKey (bp : Breakpoint) (a b : String) : String :=
  if a ≤ b then s!"{bp.name}|{a}|{b}" else s!"{bp.name}|{b}|{a}"

namespace Issue

/-- The message of an issue. -/
def message : Issue α → String
  | .defaultUnusable size f =>
    s!"default box size {sizeText size.1 size.2} is not strictly positive; " ++
      s!"using {sizeText f.x f.y}"
  | .shapeMissing box bp entry f =>
    let state := match entry with
      | none => "no shape"
      | some .null => "no shape"
      | some _ => "a non-string shape"
    s!"box '{box.boxId}' in section '{box.sectionId}' has {state} at breakpoint {bp.name}; " ++
      s!"using {sizeText f.x f.y}"
  | .shapeMalformed box bp _ f =>
    s!"box '{box.boxId}' in section '{box.sectionId}' has an unusable shape spec; " ++
      s!"using {sizeText f.x f.y} at {bp.name}"
  | .shapeUnknown box _ shape f =>
    s!"unknown shape '{shape}' for box '{box.boxId}' in section '{box.sectionId}'; " ++
      s!"using {sizeText f.x f.y}"
  | .shapeInvalid box _ shape size f =>
    s!"shape '{shape}' has non-positive size {sizeText size.1 size.2}; " ++
      s!"box '{box.boxId}' uses {sizeText f.x f.y}"
  | .noDimension box =>
    s!"box '{box.boxId}' in section '{box.sectionId}' has no dimension; skipping it"
  | .sectionEmpty sectionId bp =>
    s!"no boxes found for section '{sectionId}' at breakpoint {bp.name}"
  | .operation scope verb failure => failure.message scope verb
  | .gridEmpty bp => s!"no boxes to place at breakpoint {bp.name}; grid is 1x1"
  | .gridShifted bp least shift =>
    s!"boxes started at column {Scalar.plain least.x} / row {Scalar.plain least.y} " ++
      s!"at breakpoint {bp.name}; shifted by {shift.text}"
  | .overlap _ bp a b =>
    s!"boxes {a.name} ({a.area.css}) and {b.name} ({b.area.css}) overlap at breakpoint {bp.name}"
  | .orderRepeated context id list =>
    s!"'{id}' appears more than once in the {list.name} of {context}"
  | .orderMismatch context id .ids =>
    s!"'{id}' is in the reference order of {context} but has no box"
  | .orderMismatch context id .reference =>
    s!"'{id}' is not in the reference order of {context}; appending it"

/-- The details about a box. -/
def boxDetails (box : BoxPlace) : List (String × Value α) :=
  [("section", .string box.sectionId), ("box", .string box.boxId)]

/-- The details about one of two overlapping boxes. -/
def placedDetails (p : GridPlan.Placed α) : Value α :=
  .object [("box", .string p.name), ("area", p.area.toValue)]

/-- The details of an issue. -/
def details : Issue α → List (String × Value α)
  | .defaultUnusable size _ => [("defaultBoxSize", .list [.float size.1, .float size.2])]
  | .shapeMissing box bp entry _ =>
    boxDetails box ++ [("bp", .string bp.name), ("spec", entry.getD .null)]
  | .shapeMalformed box bp raw _ => boxDetails box ++ [("bp", .string bp.name), ("spec", raw)]
  | .shapeUnknown box bp shape _ =>
    boxDetails box ++ [("shape", .string shape), ("bp", optionalText (bp.map Breakpoint.name))]
  | .shapeInvalid box bp shape _ _ =>
    boxDetails box ++ [("shape", .string shape), ("bp", optionalText (bp.map Breakpoint.name))]
  | .noDimension box => boxDetails box
  | .sectionEmpty sectionId bp => [("section", .string sectionId), ("bp", .string bp.name)]
  | .operation scope verb failure =>
    failure.details ++ [("bp", .string scope.bp.name), ("section", optionalText scope.sectionId),
      ("operation", .string verb)]
  | .gridEmpty bp => [("bp", .string bp.name)]
  | .gridShifted bp least shift =>
    [("bp", .string bp.name), ("dx", .float shift.x), ("dy", .float shift.y),
      ("minColStart", .float least.x), ("minRowStart", .float least.y)]
  | .overlap _ bp a b =>
    [("bp", .string bp.name), ("pairKey", .string (pairKey bp a.name b.name)),
      ("a", placedDetails a), ("b", placedDetails b)]
  | .orderRepeated context id list =>
    [("id", .string id), ("context", .string context), ("list", .string list.name)]
  | .orderMismatch context id missing =>
    [("id", .string id), ("context", .string context), ("missing", .string missing.name)]

/-- The report of an issue. -/
def diagnostic (i : Issue α) : Diagnostic α where
  severity := i.severity
  origin := i.origin
  code := i.code
  message := i.message
  details := some (Value.canonical (.object i.details))

@[simp] theorem severity_diagnostic (i : Issue α) : i.diagnostic.severity = i.severity := rfl
@[simp] theorem origin_diagnostic (i : Issue α) : i.diagnostic.origin = i.origin := rfl
@[simp] theorem code_diagnostic (i : Issue α) : i.diagnostic.code = i.code := rfl

end Issue

end GridLayout
