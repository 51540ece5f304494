import GridLayout.Proofs.Reports
import GridLayout.Proofs.Slices
import GridLayout.Proofs.Transpose.Operations
import Mathlib.Data.List.Basic

/-!
# Sections with the axes swapped

An input is transposed in its operations, in the sizes of its catalog and in its default size; ids,
orders and dimensions stay as they are.  Every issue has a transpose of the same severity, origin
and code.

The stages of a solve up to the bounding boxes commute with all this:

* `Dimension.sizes_transpose`, `Dimension.issues_transpose`: sizes come from the transposed catalog.
* `SectionSpec.arrange_transpose`: the boxes of a section, arranged.
* `sectionBounds_transpose`: the bounding boxes of sections.
-/

namespace GridLayout

variable {α : Type}

/-! ## Inputs -/

/-- The schedule with the axes swapped. -/
def Schedule.transpose : Schedule α → Schedule α
  | .uniform ops => .uniform (ops.map Operation.transpose)
  | .perBreakpoint lists =>
    .perBreakpoint (lists.map fun _ ops => ops.map (List.map Operation.transpose))

/-- The section with the axes swapped. -/
def SectionSpec.transpose (s : SectionSpec α) : SectionSpec α :=
  { s with schedule := s.schedule.map Schedule.transpose }

/-- The layout with the axes swapped. -/
def LayoutSpec.transpose (layout : LayoutSpec α) : LayoutSpec α :=
  ⟨layout.sections.map SectionSpec.transpose, layout.schedule.map Schedule.transpose⟩

/-- The catalog with width and height swapped. -/
def Catalog.transpose (catalog : Catalog α) : Catalog α := fun shape =>
  (catalog shape).map Prod.swap

/-- The options with width and height of the default size swapped. -/
def Options.transpose (o : Options α) : Options α := { o with defaultSize := o.defaultSize.swap }

theorem Schedule.at?_transpose (schedule : Option (Schedule α)) (bp : Breakpoint) :
    Schedule.at? (schedule.map Schedule.transpose) bp =
      (Schedule.at? schedule bp).map Operation.transpose := by
  cases schedule with
  | none => rfl
  | some s =>
    cases s with
    | uniform ops => rfl
    | perBreakpoint lists =>
      show ((lists.map fun _ (ops : Option (List (Operation α))) =>
        ops.map (List.map Operation.transpose)).get bp).getD [] =
          ((lists.get bp).getD []).map Operation.transpose
      rw [Bps.get_map]
      cases lists.get bp <;> rfl

/-! ## Issues -/

/-- The area with columns and rows swapped. -/
def GridArea.transpose (a : GridArea α) : GridArea α := ⟨a.rowStart, a.rowEnd, a.colStart, a.colEnd⟩

/-- The box of a plan with columns and rows swapped. -/
def GridPlan.Placed.transpose (p : GridPlan.Placed α) : GridPlan.Placed α :=
  { p with area := p.area.transpose }

/-- The name that takes the place of an operation's name. -/
def Operation.transposeVerb : String → String
  | "alignToX" => "alignToY"
  | "alignToY" => "alignToX"
  | "alignAllToX" => "alignAllToY"
  | "alignAllToY" => "alignAllToX"
  | "stackHorizontally" => "stackVertically"
  | "stackVertically" => "stackHorizontally"
  | verb => verb

theorem Operation.verb_transpose (op : Operation α) :
    op.transpose.verb = transposeVerb op.verb := by
  cases op with
  | moveTo => rfl
  | moveBy => rfl
  | align axis => cases axis <;> rfl
  | alignAll axis => cases axis <;> rfl
  | stack axis => cases axis <;> rfl

namespace Issue

/-- The issue with the axes swapped. -/
def transpose : Issue α → Issue α
  | .defaultUnusable size fallback => .defaultUnusable size.swap fallback.transpose
  | .shapeMissing box bp entry fallback => .shapeMissing box bp entry fallback.transpose
  | .shapeMalformed box bp raw fallback => .shapeMalformed box bp raw fallback.transpose
  | .shapeUnknown box bp shape fallback => .shapeUnknown box bp shape fallback.transpose
  | .shapeInvalid box bp shape size fallback =>
    .shapeInvalid box bp shape size.swap fallback.transpose
  | .noDimension box => .noDimension box
  | .sectionEmpty sectionId bp => .sectionEmpty sectionId bp
  | .operation scope verb failure =>
    .operation scope (Operation.transposeVerb verb) failure.transpose
  | .gridEmpty bp => .gridEmpty bp
  | .gridShifted bp least shift => .gridShifted bp least.transpose shift.transpose
  | .overlap severity bp a b => .overlap severity bp a.transpose b.transpose
  | .orderRepeated context id list => .orderRepeated context id list
  | .orderMismatch context id missing => .orderMismatch context id missing

@[simp] theorem severity_transpose (i : Issue α) : i.transpose.severity = i.severity := by
  cases i <;> rfl

@[simp] theorem origin_transpose (i : Issue α) : i.transpose.origin = i.origin := by
  cases i <;> rfl

@[simp] theorem code_transpose (i : Issue α) : i.transpose.code = i.code := by
  cases i with
  | operation scope verb failure => cases failure <;> rfl
  | _ => rfl

/-- Transposition leaves the issues about orders as they are. -/
theorem transpose_of_origin {i : Issue α} (h : i.origin = .ordering) : i.transpose = i := by
  cases i with
  | orderRepeated => rfl
  | orderMismatch => rfl
  | _ => exact nomatch h

end Issue

theorem operationIssues_transpose (scope : Scope) (failures : List (Operation α × Failure α)) :
    operationIssues scope (failures.map (Prod.map Operation.transpose Failure.transpose)) =
      (operationIssues scope failures).map Issue.transpose := by
  rw [operationIssues, operationIssues, List.map_map, List.map_map]
  refine List.map_congr_left fun f _ => ?_
  show Issue.operation scope f.1.transpose.verb f.2.transpose = _
  rw [Operation.verb_transpose]
  rfl

variable [Scalar α]

/-! ## Sizes -/

theorem isUsableSize_comm (width height : α) : isUsableSize width height = isUsableSize height width
    := by
  rw [isUsableSize, isUsableSize]
  cases Scalar.isFinite width <;> cases Scalar.isFinite height <;>
    cases Scalar.lt Scalar.zero width <;> cases Scalar.lt Scalar.zero height <;> rfl

theorem Options.hasUsableDefault_transpose (o : Options α) :
    o.transpose.hasUsableDefault = o.hasUsableDefault :=
  isUsableSize_comm _ _

theorem Options.fallback_transpose (o : Options α) :
    o.transpose.fallback = o.fallback.transpose := by
  rw [fallback, fallback, hasUsableDefault_transpose]
  split <;> rfl

theorem Options.issues_transpose (o : Options α) :
    o.transpose.issues = o.issues.map Issue.transpose := by
  rw [issues, issues, hasUsableDefault_transpose, fallback_transpose]
  split <;> rfl

theorem Catalog.find_transpose (catalog : Catalog α) (shape : String) (box : BoxPlace)
    (bp : Option Breakpoint) (fallback : Coordinate α) :
    catalog.transpose.find shape box bp fallback.transpose =
      mapOutcome Issue.transpose Coordinate.transpose (catalog.find shape box bp fallback) := by
  rw [Catalog.find, Catalog.find, Catalog.transpose]
  cases catalog shape with
  | none => rfl
  | some size =>
    show (if isUsableSize size.2 size.1 then _ else _) = mapOutcome _ _ (if _ then _ else _)
    rw [isUsableSize_comm]
    split <;> rfl

namespace Dimension

variable (d : Dimension α) (catalog : Catalog α) (options : Options α) (box : BoxPlace)

theorem find_transpose (bp : Breakpoint) (fallback : Coordinate α) :
    d.find catalog.transpose box bp fallback.transpose =
      mapOutcome Issue.transpose Coordinate.transpose (d.find catalog box bp fallback) := by
  unfold Dimension.find
  split
  · exact Catalog.find_transpose catalog _ box none fallback
  · split
    · exact Catalog.find_transpose catalog _ box _ fallback
    · rfl
  · rfl

/-- **Sizes come from the transposed catalog transposed.** -/
theorem sizes_transpose :
    d.sizes catalog.transpose options.transpose box =
      (d.sizes catalog options box).map fun _ size => size.transpose := by
  refine Bps.ext_get fun bp => ?_
  rw [Bps.get_map, sizes, sizes, Bps.get_ofFn, Bps.get_ofFn, options.fallback_transpose,
    find_transpose]
  cases d.find catalog box bp options.fallback <;> rfl

theorem issues_transpose :
    d.issues catalog.transpose options.transpose box =
      (d.issues catalog options box).map Issue.transpose := by
  rw [issues, issues, List.map_flatMap]
  refine List.flatMap_congr fun bp _ => ?_
  rw [options.fallback_transpose, find_transpose]
  cases d.find catalog box bp options.fallback <;> rfl

end Dimension

/-! ## Sections -/

/-- The boxes of a section with the axes swapped, at every breakpoint. -/
def LocalBoxes.transpose (boxes : LocalBoxes α) : LocalBoxes α :=
  boxes.map fun _ b => BoxMap.transpose b

namespace SectionSpec

variable (s : SectionSpec α) (sectionId : String) (catalog : Catalog α) (options : Options α)

omit [Scalar α] in
theorem orderIssues_transpose :
    (s.transpose.orderIssues sectionId : List (Issue α)) =
      (s.orderIssues sectionId).map Issue.transpose := by
  refine Eq.symm ((List.map_congr_left fun i hi => ?_).trans (List.map_id _))
  exact Issue.transpose_of_origin (origin_orderIssues hi)

theorem sizedMembers_transpose :
    s.transpose.sizedMembers sectionId catalog.transpose options.transpose =
      (s.sizedMembers sectionId catalog options).map fun m =>
        (m.1, m.2.map fun _ size => size.transpose) := by
  rw [sizedMembers, sizedMembers, List.map_filterMap]
  refine List.filterMap_congr fun boxId _ => ?_
  show (s.dimension? boxId).map _ = _
  cases s.dimension? boxId with
  | none => rfl
  | some d =>
    rw [Option.map_some, Option.map_some, Option.map_some, d.sizes_transpose]

theorem memberIssues_transpose :
    s.transpose.memberIssues sectionId catalog.transpose options.transpose =
      (s.memberIssues sectionId catalog options).map Issue.transpose := by
  rw [memberIssues, memberIssues, List.map_flatMap]
  refine List.flatMap_congr fun boxId _ => ?_
  have hdim : s.transpose.dimension? boxId = s.dimension? boxId := rfl
  rw [hdim]
  cases s.dimension? boxId with
  | none => rfl
  | some d => exact d.issues_transpose catalog options ⟨sectionId, boxId⟩

theorem startingBoxes_transpose (members : List (String × Bps (Coordinate α))) (bp : Breakpoint) :
    startingBoxes (members.map fun m => (m.1, m.2.map fun _ size => size.transpose)) bp =
      BoxMap.transpose (startingBoxes members bp) := by
  rw [startingBoxes, startingBoxes, BoxMap.transpose, IdMap.map_ofList, List.map_map, List.map_map]
  refine congrArg IdMap.ofList (List.map_congr_left fun m _ => ?_)
  show (m.1, GridBox.atOrigin ((m.2.map fun _ size => size.transpose).get bp)) = _
  rw [Bps.get_map]
  rfl

/-- What becomes of the boxes of a transposed section at a breakpoint. -/
theorem outcomeAt_transpose (bp : Breakpoint) :
    s.transpose.outcomeAt sectionId catalog.transpose options.transpose bp =
      Prod.map BoxMap.transpose (List.map (Prod.map Operation.transpose Failure.transpose))
        (s.outcomeAt sectionId catalog options bp) := by
  rw [outcomeAt, sizedMembers_transpose, startingBoxes_transpose, transpose,
    Schedule.at?_transpose, Operation.runAll_transpose]
  rfl

/-- **The boxes of a section, arranged, commute with transposition**, and so do the reports. -/
theorem arrange_transpose :
    s.transpose.arrange sectionId catalog.transpose options.transpose =
      (LocalBoxes.transpose (s.arrange sectionId catalog options).1,
        (s.arrange sectionId catalog options).2.map Issue.transpose) := by
  have hoperations :
      ((Bps.ofFn (s.transpose.outcomeAt sectionId catalog.transpose
        options.transpose)).entries.flatMap fun o => operationIssues ⟨o.1, some sectionId⟩ o.2.2) =
        ((Bps.ofFn (s.outcomeAt sectionId catalog options)).entries.flatMap fun o =>
          operationIssues ⟨o.1, some sectionId⟩ o.2.2).map Issue.transpose := by
    rw [List.map_flatMap, Bps.entries, Bps.entries, List.flatMap_map, List.flatMap_map]
    refine List.flatMap_congr fun bp _ => ?_
    rw [Bps.get_ofFn, Bps.get_ofFn, outcomeAt_transpose]
    exact operationIssues_transpose ⟨bp, some sectionId⟩ _
  refine Prod.ext (Bps.ext_get fun bp => ?_) ?_
  · rw [get_arrange, outcomeAt_transpose, LocalBoxes.transpose, Bps.get_map, get_arrange]
    rfl
  · rw [arrange_eq, hoperations, orderIssues_transpose, memberIssues_transpose, ← List.map_append,
      ← List.map_append]
    rfl

end SectionSpec

/-- **The boxes of all sections, arranged, commute with transposition**, and so do the reports. -/
theorem LayoutSpec.arrangeSections_transpose (layout : LayoutSpec α) (catalog : Catalog α)
    (options : Options α) :
    layout.transpose.arrangeSections catalog.transpose options.transpose =
      ((layout.arrangeSections catalog options).1.map LocalBoxes.transpose,
        (layout.arrangeSections catalog options).2.map Issue.transpose) := by
  have harranged : (layout.transpose.sections.mapEntries fun id s =>
        s.arrange id catalog.transpose options.transpose) =
      (layout.sections.mapEntries fun id s => s.arrange id catalog options).map
        (Prod.map LocalBoxes.transpose (List.map Issue.transpose)) := by
    rw [transpose, IdMap.mapEntries_map, IdMap.map_mapEntries]
    exact IdMap.mapEntries_congr fun e _ => e.2.arrange_transpose e.1 catalog options
  rw [arrangeSections, harranged, arrangeSections]
  refine Prod.ext ?_ ?_
  · rw [IdMap.map_map, IdMap.map_map]
    rfl
  · rw [options.issues_transpose, IdMap.values_map, List.flatMap_map, List.map_append,
      List.map_flatMap]
    rfl

/-! ## Bounding boxes -/

theorem enclosing?_transpose (boxes : BoxMap α) :
    enclosing? (BoxMap.transpose boxes) = (enclosing? boxes).map GridBox.transpose := by
  rw [enclosing?, enclosing?, BoxMap.transpose, IdMap.values_map]
  cases boxes.values with
  | nil => rfl
  | cons b rest =>
    show some ((rest.map GridBox.transpose).foldl GridBox.union b.transpose) = _
    rw [List.foldl_map]
    exact congrArg some (List.foldl_hom GridBox.transpose fun _ _ => rfl)

theorem LocalBoxes.bounds_transpose (boxes : LocalBoxes α) :
    LocalBoxes.bounds (LocalBoxes.transpose boxes) =
      (LocalBoxes.bounds boxes).map fun _ e => e.transpose := by
  refine Bps.ext_get fun bp => ?_
  rw [bounds, bounds, transpose, Bps.get_map, Bps.get_map, Bps.get_map, Bps.get_map,
    enclosing?_transpose]
  cases enclosing? (boxes.get bp) <;> rfl

theorem LocalBoxes.emptyIssues_transpose (boxes : LocalBoxes α) (sectionId : String) :
    LocalBoxes.emptyIssues (LocalBoxes.transpose boxes) sectionId =
      (LocalBoxes.emptyIssues boxes sectionId).map Issue.transpose := by
  rw [emptyIssues, emptyIssues, Bps.entries, Bps.entries, List.flatMap_map, List.flatMap_map,
    List.map_flatMap]
  refine List.flatMap_congr fun bp _ => ?_
  have hempty : (BoxMap.transpose (boxes.get bp)).isEmpty = (boxes.get bp).isEmpty :=
    List.isEmpty_map
  rw [transpose, Bps.get_map, hempty]
  split <;> rfl

/-- **The bounding boxes of sections commute with transposition**, and a section is empty when its
transpose is. -/
theorem sectionBounds_transpose (sections : IdMap (LocalBoxes α)) :
    sectionBounds (sections.map LocalBoxes.transpose) =
      ((sectionBounds sections).1.map fun e => e.map fun _ b => b.transpose,
        (sectionBounds sections).2.map Issue.transpose) := by
  rw [sectionBounds, sectionBounds]
  refine Prod.ext ?_ ?_
  · rw [IdMap.map_map, IdMap.map_map]
    exact IdMap.map_congr fun boxes _ => LocalBoxes.bounds_transpose boxes
  · rw [IdMap.entries_map, List.flatMap_map, List.map_flatMap]
    exact List.flatMap_congr fun e _ => LocalBoxes.emptyIssues_transpose e.2 e.1

end GridLayout
