import GridLayout.Breakpoint
import GridLayout.Value

/-!
# Diagnostics

A solve never fails.  What it had to assume, skip or move is reported in diagnostics: a severity,
the part of the solve that noticed, a code, a message, and details as raw data.

This module is about reports as such, whoever writes them.  `Diagnostic.verdict` is the strict
reading: any error among the reports is a failure that carries exactly the errors.
-/

namespace GridLayout

/-! ## Classification -/

/-- How serious a report is. -/
inductive Severity where
  | error
  | warning
  deriving DecidableEq, Repr

/-- The name of a severity. -/
def Severity.name : Severity → String
  | .error => "error"
  | .warning => "warning"

/-- All severities. -/
def Severity.all : List Severity := [.error, .warning]

/-- The severity of a name. -/
def Severity.ofName? (s : String) : Option Severity := Severity.all.find? fun a => a.name == s

/-- The part of a solve that reports. -/
inductive Origin where
  | boxShape
  | localLayout
  | transformation
  | sectionBounds
  | absoluteLayout
  | overlap
  | ordering
  deriving DecidableEq, Repr

/-- The name of an origin. -/
def Origin.name : Origin → String
  | .boxShape => "box-shape"
  | .localLayout => "local-layout"
  | .transformation => "transformation"
  | .sectionBounds => "section-bounds"
  | .absoluteLayout => "absolute-layout"
  | .overlap => "overlap"
  | .ordering => "ordering"

/-- All origins. -/
def Origin.all : List Origin :=
  [.boxShape, .localLayout, .transformation, .sectionBounds, .absoluteLayout, .overlap, .ordering]

/-- The origin of a name. -/
def Origin.ofName? (s : String) : Option Origin := Origin.all.find? fun a => a.name == s

/-- What a report is about, for machines. -/
inductive IssueCode where
  | boxShapeMissingBp
  | boxShapeUnknown
  | boxShapeInvalid
  | noBoxesProcessed
  | sectionEmpty
  | unknownNodeId
  | unknownAnchor
  | invalidTransformationParams
  | emptyGrid
  | gridNormalizedToPositiveLines
  | overlapNotAllowed
  | nodeOrderMismatch
  | duplicateKind
  deriving DecidableEq, Repr

/-- The text of a code. -/
def IssueCode.name : IssueCode → String
  | .boxShapeMissingBp => "BOX_SHAPE_MISSING_BP"
  | .boxShapeUnknown => "BOX_SHAPE_UNKNOWN"
  | .boxShapeInvalid => "BOX_SHAPE_INVALID"
  | .noBoxesProcessed => "NO_BOXES_PROCESSED"
  | .sectionEmpty => "SECTION_EMPTY"
  | .unknownNodeId => "UNKNOWN_NODE_ID"
  | .unknownAnchor => "UNKNOWN_ANCHOR"
  | .invalidTransformationParams => "INVALID_TRANSFORMATION_PARAMS"
  | .emptyGrid => "EMPTY_GRID"
  | .gridNormalizedToPositiveLines => "GRID_NORMALIZED_TO_POSITIVE_LINES"
  | .overlapNotAllowed => "OVERLAP_NOT_ALLOWED"
  | .nodeOrderMismatch => "NODE_ORDER_MISMATCH"
  | .duplicateKind => "DUPLICATE_KIND"

/-- All codes. -/
def IssueCode.all : List IssueCode :=
  [.boxShapeMissingBp, .boxShapeUnknown, .boxShapeInvalid, .noBoxesProcessed, .sectionEmpty,
    .unknownNodeId, .unknownAnchor, .invalidTransformationParams, .emptyGrid,
    .gridNormalizedToPositiveLines, .overlapNotAllowed, .nodeOrderMismatch, .duplicateKind]

/-- The code of a text. -/
def IssueCode.ofName? (s : String) : Option IssueCode := IssueCode.all.find? fun a => a.name == s

/-! ## Reports -/

/-- A report. -/
structure Diagnostic (α : Type) where
  severity : Severity
  origin : Origin
  code : IssueCode
  message : String
  details : Option (Value α)
  deriving Repr

namespace Diagnostic

variable {α : Type}

/-- The breakpoint that the details name, if they name one. -/
def breakpoint? (d : Diagnostic α) : Option Breakpoint :=
  (d.details.bind (·.field? "bp")).bind Value.string? |>.bind Breakpoint.ofName?

/-- The report as one line of text. -/
def line (d : Diagnostic α) : String :=
  s!"[{d.severity.name}] {d.origin.name} {d.code.name}: {d.message}"

/-- The report as data; details are left out when there are none. -/
def toValue (d : Diagnostic α) : Value α :=
  let issue := [("code", .string d.code.name), ("message", .string d.message)] ++
    match d.details with
    | some v => [("details", v)]
    | none => []
  .object [("severity", .string d.severity.name), ("origin", .string d.origin.name),
    ("issue", .object issue)]

/-- Whether a report is an error. -/
def isError (d : Diagnostic α) : Bool := d.severity == .error

/-! ## Collections of reports -/

/-- The reports with a code. -/
def withCode (ds : List (Diagnostic α)) (code : IssueCode) : List (Diagnostic α) :=
  ds.filter fun d => d.code == code

/-- The reports of a severity. -/
def withSeverity (ds : List (Diagnostic α)) (severity : Severity) : List (Diagnostic α) :=
  ds.filter fun d => d.severity == severity

/-- The reports about a breakpoint. -/
def atBreakpoint (ds : List (Diagnostic α)) (bp : Breakpoint) : List (Diagnostic α) :=
  ds.filter fun d => d.breakpoint? == some bp

/-- Whether there is an error among the reports. -/
def hasErrors (ds : List (Diagnostic α)) : Bool := ds.any isError

/-- The strict reading of some reports: they pass unchanged when no error is among them, and
otherwise the errors alone are the failure. -/
def verdict (ds : List (Diagnostic α)) : Except (List (Diagnostic α)) (List (Diagnostic α)) :=
  if hasErrors ds then .error (ds.filter isError) else .ok ds

/-- The text of a failure under the strict reading. -/
def failureText (errors : List (Diagnostic α)) : String :=
  s!"{errors.length} layout error(s): " ++
    "; ".intercalate (errors.map fun d => s!"{d.code.name}: {d.message}")

end Diagnostic

end GridLayout
