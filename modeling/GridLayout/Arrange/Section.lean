import GridLayout.Arrange.Motion
import GridLayout.Ordering
import GridLayout.Sizing

/-!
# Sections on their own

A section is first arranged without regard to any other.  Its boxes, in the order the section asks
for, start at the origin with their sizes, and the operations of the section move them, at each
breakpoint apart from the others.  A box without a dimension is left out.

Issues come in reading order: the order of the boxes, then box by box their dimensions, then
breakpoint by breakpoint the operations.
-/

namespace GridLayout

variable {α : Type} [Scalar α]

/-- The boxes of a section at every breakpoint, in the coordinates of the section. -/
abbrev LocalBoxes (α : Type) [Scalar α] := Bps (BoxMap α)

/-- The issues of operations that failed. -/
def operationIssues (scope : Scope) (failures : List (Operation α × Failure α)) :
    List (Issue α) :=
  failures.map fun f => .operation scope f.1.verb f.2

namespace SectionSpec

/-- The boxes of a section in the order of their enumeration. -/
def memberIds (s : SectionSpec α) : List String :=
  match s.order with
  | some reference => orderIds s.boxes.keys reference
  | none => s.boxes.keys

/-- What does not line up between the boxes of a section and the order it asks for. -/
def orderIssues (s : SectionSpec α) (sectionId : String) : List (Issue α) :=
  match s.order with
  | some reference => GridLayout.orderIssues s!"section '{sectionId}'" s.boxes.keys reference
  | none => []

/-- The dimension of a box. -/
def dimension? (s : SectionSpec α) (boxId : String) : Option (Dimension α) :=
  (s.boxes.get? boxId).bind BoxSpec.dimension

/-- The boxes that have a dimension, each with its size at every breakpoint. -/
def sizedMembers (s : SectionSpec α) (sectionId : String) (catalog : Catalog α)
    (options : Options α) : List (String × Bps (Coordinate α)) :=
  s.memberIds.filterMap fun boxId =>
    (s.dimension? boxId).map fun d => (boxId, d.sizes catalog options ⟨sectionId, boxId⟩)

/-- What there is to say about the dimensions of the boxes. -/
def memberIssues (s : SectionSpec α) (sectionId : String) (catalog : Catalog α)
    (options : Options α) : List (Issue α) :=
  s.memberIds.flatMap fun boxId =>
    match s.dimension? boxId with
    | some d => d.issues catalog options ⟨sectionId, boxId⟩
    | none => [.noDimension ⟨sectionId, boxId⟩]

/-- Boxes at the origin with their sizes at one breakpoint. -/
def startingBoxes (members : List (String × Bps (Coordinate α))) (bp : Breakpoint) : BoxMap α :=
  IdMap.ofList (members.map fun m => (m.1, GridBox.atOrigin (m.2.get bp)))

/-- Arranges the boxes of a section. -/
def arrange (s : SectionSpec α) (sectionId : String) (catalog : Catalog α) (options : Options α) :
    LocalBoxes α × List (Issue α) :=
  let members := s.sizedMembers sectionId catalog options
  let outcome := Bps.ofFn fun bp =>
    Operation.runAll (Schedule.at? s.schedule bp) (startingBoxes members bp)
  (outcome.map fun _ o => o.1,
    s.orderIssues sectionId ++ s.memberIssues sectionId catalog options ++
      outcome.entries.flatMap fun o => operationIssues ⟨o.1, some sectionId⟩ o.2.2)

end SectionSpec

/-! ## All sections -/

/-- What there is to say about the default size. -/
def Options.issues (options : Options α) : List (Issue α) :=
  if options.hasUsableDefault then []
  else [.defaultUnusable options.defaultSize options.fallback]

/-- Arranges the boxes of every section. -/
def LayoutSpec.arrangeSections (layout : LayoutSpec α) (catalog : Catalog α)
    (options : Options α) : IdMap (LocalBoxes α) × List (Issue α) :=
  let arranged := layout.sections.mapEntries fun id s => s.arrange id catalog options
  (arranged.map Prod.fst, options.issues ++ arranged.values.flatMap Prod.snd)

end GridLayout
