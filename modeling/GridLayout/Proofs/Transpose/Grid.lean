import GridLayout.Proofs.Overlaps
import GridLayout.Proofs.Transpose.Sections

/-!
# Solving a layout with the axes swapped

The grid of transposed sections is the transposed grid: columns are rows and rows are columns, and
the shift to the first line has its components swapped.  Two areas overlap when their transposes do.

* `normalizeAt_transpose`: bringing areas to the first line commutes with transposition.
* `assemble_transpose`: so does making one grid out of all sections.
* `overlapIssues_transpose`: so does the audit.
* `solve_transpose`: so does a solve, with the same reports up to their wording.

A mistake about an axis anywhere in a solve would break one of these, so there is none.
-/

namespace GridLayout

variable {α : Type}

/-! ## Plans -/

/-- The dimensions with columns and rows swapped. -/
def GridDimensions.transpose (d : GridDimensions α) : GridDimensions α := ⟨d.rows, d.columns⟩

/-- The areas of one breakpoint with columns and rows swapped. -/
def AreaMap.transpose (areas : AreaMap α) : AreaMap α := areas.map fun s => s.map GridArea.transpose

/-- The plan with columns and rows swapped. -/
def GridPlan.transpose (p : GridPlan α) : GridPlan α where
  sections := p.sections.map fun s => s.map fun _ areas => areas.map GridArea.transpose
  dimensions := p.dimensions.map fun _ d => d.transpose
  normalization := p.normalization.map fun _ shift => shift.transpose

/-- The grid of one breakpoint with columns and rows swapped. -/
def Normalized.transpose (n : Normalized α) : Normalized α :=
  ⟨AreaMap.transpose n.areas, n.dimensions.transpose, n.shift.transpose,
    n.issues.map Issue.transpose⟩

section

variable [Scalar α]

/-! ## Arranged bounding boxes -/

/-- The arranged bounding boxes with the axes swapped. -/
def Positioned.transpose (p : Positioned α) : Positioned α :=
  ⟨p.corners.map Coordinate.transpose, BoxMap.transpose p.boxes,
    p.failures.map (Prod.map Operation.transpose Failure.transpose)⟩

theorem positionSections_transpose (bounds : BoxMap α) (ops : List (Operation α)) :
    positionSections (BoxMap.transpose bounds) (ops.map Operation.transpose) =
      (positionSections bounds ops).transpose := by
  have hstart : ((BoxMap.transpose bounds).map fun b => { b with origin := gridOrigin }) =
      BoxMap.transpose (bounds.map fun b => { b with origin := gridOrigin }) := by
    rw [BoxMap.transpose, BoxMap.transpose, IdMap.map_map, IdMap.map_map]
    rfl
  have hcorners : (BoxMap.transpose bounds).map GridBox.origin =
      (bounds.map GridBox.origin).map Coordinate.transpose := by
    rw [BoxMap.transpose, IdMap.map_map, IdMap.map_map]
    rfl
  rw [positionSections, hstart, hcorners, Operation.runAll_transpose]
  rfl

theorem Positioned.carry_transpose (p : Positioned α) (sectionId : String) (b : GridBox α) :
    p.transpose.carry sectionId b.transpose = (p.carry sectionId b).transpose := by
  rw [carry, carry, transpose, BoxMap.transpose, IdMap.get?_map, IdMap.get?_map]
  cases p.corners.get? sectionId with
  | none => rfl
  | some was => cases p.boxes.get? sectionId <;> rfl

theorem foldl_max_farCorner_transpose (boxes : List (GridBox α)) (c : Coordinate α) :
    (boxes.map GridBox.transpose).foldl (fun acc b => acc.max b.farCorner) c.transpose =
      (boxes.foldl (fun acc b => acc.max b.farCorner) c).transpose := by
  rw [List.foldl_map]
  exact List.foldl_hom Coordinate.transpose fun _ _ => rfl

theorem Positioned.dimensions_transpose (p : Positioned α) :
    p.transpose.dimensions = p.dimensions.transpose := by
  have hfar := foldl_max_farCorner_transpose p.boxes.values Coordinate.zero
  rw [← IdMap.values_map] at hfar
  exact congrArg (fun far : Coordinate α => (⟨far.x, far.y⟩ : GridDimensions α)) hfar

/-! ## Bringing areas to the first line -/

theorem leastStart?_transpose (areas : AreaMap α) :
    leastStart? (AreaMap.transpose areas) = (leastStart? areas).map Coordinate.transpose := by
  have hstarts : ((AreaMap.transpose areas).values.flatMap fun s => s.values.map GridArea.start) =
      (areas.values.flatMap fun s => s.values.map GridArea.start).map Coordinate.transpose := by
    rw [AreaMap.transpose, IdMap.values_map, List.flatMap_map, List.map_flatMap]
    refine List.flatMap_congr fun s _ => ?_
    rw [IdMap.values_map, List.map_map, List.map_map]
    rfl
  rw [leastStart?, leastStart?, hstarts]
  cases areas.values.flatMap fun s => s.values.map GridArea.start with
  | nil => rfl
  | cons c rest =>
    show some ((rest.map Coordinate.transpose).foldl Coordinate.min c.transpose) = _
    rw [List.foldl_map]
    exact congrArg some (List.foldl_hom Coordinate.transpose fun _ _ => rfl)

theorem onGrid_transpose (c : Coordinate α) : onGrid c.transpose = onGrid c := Bool.and_comm _ _

/-- **Bringing areas to the first line commutes with transposition.** -/
theorem normalizeAt_transpose (bp : Breakpoint) (areas : AreaMap α) (d : GridDimensions α) :
    normalizeAt bp (AreaMap.transpose areas) d.transpose = (normalizeAt bp areas d).transpose := by
  rw [normalizeAt, normalizeAt, leastStart?_transpose]
  cases leastStart? areas with
  | none => rfl
  | some least =>
    show (if onGrid least.transpose then _ else _) = Normalized.transpose (if _ then _ else _)
    rw [onGrid_transpose]
    split
    · rfl
    · refine congrArg (fun a => Normalized.mk a _ _ _) ?_
      rw [AreaMap.transpose, AreaMap.transpose, IdMap.map_map, IdMap.map_map]
      refine IdMap.map_congr fun s _ => ?_
      rw [Function.comp_apply, Function.comp_apply, IdMap.map_map, IdMap.map_map]
      rfl

/-! ## One grid out of all sections -/

theorem assembleAt_transpose (bp : Breakpoint) (sections : IdMap (BoxMap α)) (bounds : BoxMap α)
    (ops : List (Operation α)) :
    assembleAt bp (sections.map BoxMap.transpose) (BoxMap.transpose bounds)
        (ops.map Operation.transpose) =
      (assembleAt bp sections bounds ops).transpose := by
  have hareas : (sections.map BoxMap.transpose).mapEntries (fun id boxes => boxes.map fun b =>
        GridArea.ofBox ((positionSections bounds ops).transpose.carry id b)) =
      AreaMap.transpose (sections.mapEntries fun id boxes => boxes.map fun b =>
        GridArea.ofBox ((positionSections bounds ops).carry id b)) := by
    rw [AreaMap.transpose, IdMap.mapEntries_map, IdMap.map_mapEntries]
    refine IdMap.mapEntries_congr fun e _ => ?_
    rw [BoxMap.transpose, IdMap.map_map, IdMap.map_map]
    refine IdMap.map_congr fun b _ => ?_
    rw [Function.comp_apply, Positioned.carry_transpose]
    rfl
  rw [assembleAt, positionSections_transpose, hareas, Positioned.dimensions_transpose,
    normalizeAt_transpose, assembleAt]
  refine congrArg (Normalized.mk _ _ _) ?_
  rw [List.map_append]
  exact congrArg (· ++ _) (operationIssues_transpose ⟨bp, none⟩ _)

variable (sections : IdMap (LocalBoxes α)) (bounds : IdMap (Bps (GridBox α)))
  (schedule : Option (Schedule α))

theorem gridAt_transpose (bp : Breakpoint) :
    gridAt (sections.map LocalBoxes.transpose) (bounds.map fun e => e.map fun _ b => b.transpose)
        (schedule.map Schedule.transpose) bp =
      (gridAt sections bounds schedule bp).transpose := by
  have hsections : ((sections.map LocalBoxes.transpose).map fun s => s.get bp) =
      (sections.map fun s => s.get bp).map BoxMap.transpose := by
    rw [IdMap.map_map, IdMap.map_map]
    exact IdMap.map_congr fun s _ => Bps.get_map _ s bp
  have hbounds : ((bounds.map fun e => e.map fun _ b => b.transpose).map fun e => e.get bp) =
      BoxMap.transpose (bounds.map fun e => e.get bp) := by
    rw [BoxMap.transpose, IdMap.map_map, IdMap.map_map]
    exact IdMap.map_congr fun e _ => Bps.get_map _ e bp
  rw [gridAt, hsections, hbounds, Schedule.at?_transpose, assembleAt_transpose, gridAt]

/-- The plan that the grids of all breakpoints make, with their reports. -/
def planOfGrids (grids : Bps (Normalized α)) : GridPlan α × List (Issue α) :=
  (⟨sections.mapEntries fun id _ => grids.map fun _ g => (g.areas.get? id).getD IdMap.empty,
      grids.map fun _ g => g.dimensions, grids.map fun _ g => g.shift⟩,
    grids.toList.flatMap Normalized.issues)

theorem assemble_eq_planOfGrids :
    assemble sections bounds schedule =
      planOfGrids sections (Bps.ofFn (gridAt sections bounds schedule)) := rfl

theorem planOfGrids_transpose (grids : Bps (Normalized α)) :
    planOfGrids (sections.map LocalBoxes.transpose) (grids.map fun _ g => g.transpose) =
      ((planOfGrids sections grids).1.transpose,
        (planOfGrids sections grids).2.map Issue.transpose) := by
  have hareas : ∀ id, ((grids.map fun _ g => g.transpose).map fun _ g =>
        (g.areas.get? id).getD IdMap.empty) =
      (grids.map fun _ g => (g.areas.get? id).getD IdMap.empty).map fun _ areas =>
        areas.map GridArea.transpose := by
    intro id
    refine Bps.ext_get fun bp => ?_
    rw [Bps.get_map, Bps.get_map, Bps.get_map, Bps.get_map, Normalized.transpose,
      AreaMap.transpose, IdMap.get?_map]
    cases (grids.get bp).areas.get? id <;> rfl
  refine Prod.ext ?_ ?_
  · refine congrArg (fun s => GridPlan.mk s _ _) ?_
    rw [IdMap.mapEntries_map, planOfGrids, IdMap.map_mapEntries]
    exact IdMap.mapEntries_congr fun e _ => hareas e.1
  · show (grids.map fun _ g => g.transpose).toList.flatMap Normalized.issues =
      (grids.toList.flatMap Normalized.issues).map Issue.transpose
    rw [Bps.toList, Bps.toList, List.flatMap_map, List.flatMap_map, List.map_flatMap]
    refine List.flatMap_congr fun bp _ => ?_
    rw [Bps.get_map]
    rfl

/-- **Making one grid out of all sections commutes with transposition.** -/
theorem assemble_transpose :
    assemble (sections.map LocalBoxes.transpose) (bounds.map fun e => e.map fun _ b => b.transpose)
        (schedule.map Schedule.transpose) =
      ((assemble sections bounds schedule).1.transpose,
        (assemble sections bounds schedule).2.map Issue.transpose) := by
  rw [assemble_eq_planOfGrids, assemble_eq_planOfGrids, ← planOfGrids_transpose]
  refine congrArg (planOfGrids _) (Bps.ext_get fun bp => ?_)
  rw [Bps.get_ofFn, Bps.get_map, Bps.get_ofFn]
  exact gridAt_transpose sections bounds schedule bp

/-! ## The audit -/

theorem GridArea.intersects_transpose (a b : GridArea α) :
    a.transpose.intersects b.transpose = a.intersects b := by
  show (Scalar.lt a.rowStart b.rowEnd && Scalar.lt b.rowStart a.rowEnd &&
    Scalar.lt a.colStart b.colEnd && Scalar.lt b.colStart a.colEnd) =
      (Scalar.lt a.colStart b.colEnd && Scalar.lt b.colStart a.colEnd &&
        Scalar.lt a.rowStart b.rowEnd && Scalar.lt b.rowStart a.rowEnd)
  rw [Bool.and_assoc, Bool.and_comm, ← Bool.and_assoc]

omit [Scalar α] in
theorem GridPlan.placedAt_transpose (plan : GridPlan α) (bp : Breakpoint) :
    plan.transpose.placedAt bp = (plan.placedAt bp).map Placed.transpose := by
  rw [placedAt, placedAt, transpose, IdMap.entries_map, List.flatMap_map, List.map_flatMap]
  refine List.flatMap_congr fun s _ => ?_
  rw [Bps.get_map, IdMap.entries_map, List.map_map, List.map_map]
  rfl

theorem overlapsAt_transpose (plan : GridPlan α) (bp : Breakpoint) :
    overlapsAt plan.transpose bp =
      (overlapsAt plan bp).map (Prod.map GridPlan.Placed.transpose GridPlan.Placed.transpose) := by
  rw [overlapsAt, overlapsAt, GridPlan.placedAt_transpose, pairs_map, List.filter_map]
  refine congrArg (List.map _) (List.filter_congr fun p _ => ?_)
  exact GridArea.intersects_transpose p.1.area p.2.area

/-- **The audit commutes with transposition**: the same pairs overlap. -/
theorem overlapIssues_transpose (plan : GridPlan α) (bps : List Breakpoint)
    (policy : OverlapPolicy) :
    overlapIssues plan.transpose bps policy =
      (overlapIssues plan bps policy).map Issue.transpose := by
  rw [overlapIssues, overlapIssues]
  cases policy.severity? with
  | none => rfl
  | some severity =>
    show (distinctBreakpoints bps).flatMap _ = ((distinctBreakpoints bps).flatMap _).map _
    rw [List.map_flatMap]
    refine List.flatMap_congr fun bp _ => ?_
    rw [overlapsAt_transpose, List.map_map, List.map_map]
    rfl

/-! ## A solve -/

/-- What a report says to a program: its severity, its origin and its code. -/
def Diagnostic.kind (d : Diagnostic α) : Severity × Origin × IssueCode :=
  (d.severity, d.origin, d.code)

theorem Issue.kind_transpose (i : Issue α) : i.transpose.diagnostic.kind = i.diagnostic.kind := by
  rw [Diagnostic.kind, Diagnostic.kind]
  simp only [severity_diagnostic, origin_diagnostic, code_diagnostic, severity_transpose,
    origin_transpose, code_transpose]

variable (layout : LayoutSpec α) (catalog : Catalog α) (options : Options α)

theorem plan_solve_transpose :
    (solve layout.transpose catalog.transpose options.transpose).plan =
      (solve layout catalog options).plan.transpose := by
  rw [solve_plan, layout.arrangeSections_transpose, sectionBounds_transpose, LayoutSpec.transpose,
    assemble_transpose, solve_plan]

theorem issues_stages_transpose :
    (layout.transpose.stages catalog.transpose options.transpose).issues =
      (layout.stages catalog options).issues.map Issue.transpose := by
  rw [issues_stages, plan_solve_transpose, layout.arrangeSections_transpose,
    sectionBounds_transpose, LayoutSpec.transpose, assemble_transpose, overlapIssues_transpose,
    issues_stages, List.map_append, List.map_append, List.map_append]
  rfl

/-- **A solve commutes with transposition.**  The plan of the transposed input is the transposed
plan, and the reports are as many, in the same order, each of the same severity, origin and code. -/
theorem solve_transpose :
    (solve layout.transpose catalog.transpose options.transpose).plan =
        (solve layout catalog options).plan.transpose ∧
      (solve layout.transpose catalog.transpose options.transpose).diagnostics.map
          Diagnostic.kind =
        (solve layout catalog options).diagnostics.map Diagnostic.kind := by
  refine ⟨plan_solve_transpose layout catalog options, ?_⟩
  rw [solve_diagnostics, solve_diagnostics, issues_stages_transpose, List.map_map, List.map_map,
    List.map_map]
  exact List.map_congr_left fun i _ => i.kind_transpose

end

end GridLayout
