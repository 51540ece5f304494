import GridLayout.Proofs.Rigid
import GridLayout.Solution

/-!
# One breakpoint of a solve

A solve goes through its stages with all five breakpoints at once.  `SectionSpec.outcomeAt` and
`gridAt` are what becomes of a section and of the grid at one breakpoint, computed from that
breakpoint alone; reading the stages of a solve at the breakpoint gives them back.

* `SectionSpec.arrange_eq`, `SectionSpec.get_arrange`: the boxes of a section at a breakpoint.
* `sliceAt_assemble`, `dimensions_assemble`, `normalization_assemble`: the three parts of a plan.
* `GridPlan.placedAt_eq`: the boxes of a plan at a breakpoint are those of its slice.
* `gridAt_eq`: a grid is its areas before the shift to the first line, shifted.  `unshiftedAt` is
  the first of the two steps, and `placementAt` the arrangement of bounding boxes that it carries
  the boxes along with.
* `exists_placement`: every section is placed as a whole.  Its bounding box is arranged with its
  extent, and its boxes are carried from where it was to where it is.
* `solve_plan`, `issues_stages`: a solve as the composition of its stages.
-/

namespace GridLayout

variable {α : Type}

/-! ## The boxes of a slice -/

/-- Every box of the areas of one breakpoint, section by section. -/
def AreaMap.placed (areas : AreaMap α) : List (GridPlan.Placed α) :=
  areas.entries.flatMap fun s => s.2.entries.map fun b => ⟨s.1, b.1, b.2⟩

theorem AreaMap.mem_placed {areas : AreaMap α} {p : GridPlan.Placed α} :
    p ∈ AreaMap.placed areas ↔
      ∃ s, areas.get? p.sectionId = some s ∧ s.get? p.boxId = some p.area := by
  rw [AreaMap.placed, List.mem_flatMap]
  constructor
  · rintro ⟨s, hs, hp⟩
    obtain ⟨b, hb, rfl⟩ := List.mem_map.mp hp
    exact ⟨s.2, IdMap.get?_of_mem hs, IdMap.get?_of_mem hb⟩
  · rintro ⟨s, hs, hb⟩
    exact ⟨(p.sectionId, s), IdMap.get?_eq_some_iff.mp hs,
      List.mem_map.mpr ⟨(p.boxId, p.area), IdMap.get?_eq_some_iff.mp hb, rfl⟩⟩

/-- **The boxes of a plan at a breakpoint are those of its slice.** -/
theorem GridPlan.placedAt_eq (plan : GridPlan α) (bp : Breakpoint) :
    plan.placedAt bp = AreaMap.placed (sliceAt plan.sections bp) := by
  rw [placedAt, AreaMap.placed, sliceAt, IdMap.entries_map, List.flatMap_map]

variable [Scalar α]

/-! ## The sections at one breakpoint -/

namespace SectionSpec

variable (s : SectionSpec α) (sectionId : String) (catalog : Catalog α) (options : Options α)

/-- What becomes of the boxes of a section at a breakpoint, with the operations that failed. -/
def outcomeAt (bp : Breakpoint) : BoxMap α × List (Operation α × Failure α) :=
  Operation.runAll (Schedule.at? s.schedule bp)
    (startingBoxes (s.sizedMembers sectionId catalog options) bp)

theorem arrange_eq :
    s.arrange sectionId catalog options =
      ((Bps.ofFn (s.outcomeAt sectionId catalog options)).map fun _ o => o.1,
        s.orderIssues sectionId ++ s.memberIssues sectionId catalog options ++
          (Bps.ofFn (s.outcomeAt sectionId catalog options)).entries.flatMap fun o =>
            operationIssues ⟨o.1, some sectionId⟩ o.2.2) := rfl

theorem get_arrange (bp : Breakpoint) :
    (s.arrange sectionId catalog options).1.get bp =
      (s.outcomeAt sectionId catalog options bp).1 := by
  rw [arrange_eq, Bps.get_map, Bps.get_ofFn]

end SectionSpec

/-- The boxes of all sections, section by section. -/
theorem LayoutSpec.arrangeSections_fst (layout : LayoutSpec α) (catalog : Catalog α)
    (options : Options α) :
    (layout.arrangeSections catalog options).1 =
      layout.sections.mapEntries fun id s => (s.arrange id catalog options).1 :=
  IdMap.map_mapEntries _ _ _

/-! ## The grid of one breakpoint -/

/-- The grid of one breakpoint, from the boxes and the bounding boxes of that breakpoint. -/
def gridAt (sections : IdMap (LocalBoxes α)) (bounds : IdMap (Bps (GridBox α)))
    (schedule : Option (Schedule α)) (bp : Breakpoint) : Normalized α :=
  assembleAt bp (sections.map fun s => s.get bp) (bounds.map fun b => b.get bp)
    (Schedule.at? schedule bp)

theorem keys_normalizeAt (bp : Breakpoint) (areas : AreaMap α) (dimensions : GridDimensions α) :
    (normalizeAt bp areas dimensions).areas.keys = areas.keys := by
  rw [normalizeAt]
  split
  · rfl
  · split
    · rfl
    · exact IdMap.keys_map _ _

theorem keys_assembleAt (bp : Breakpoint) (sections : IdMap (BoxMap α)) (bounds : BoxMap α)
    (ops : List (Operation α)) : (assembleAt bp sections bounds ops).areas.keys = sections.keys :=
  (keys_normalizeAt bp _ _).trans (IdMap.keys_mapEntries _ _)

/-! ## Arranged bounding boxes -/

theorem boxes_positionSections (bounds : BoxMap α) (ops : List (Operation α)) :
    (positionSections bounds ops).boxes =
      (Operation.runAll ops (bounds.map fun b => { b with origin := gridOrigin })).1 := rfl

/-- **A bounding box is arranged with its extent**, and the boxes of its section are carried from
where it was to where it is. -/
theorem exists_positioned {bounds : BoxMap α} {sectionId : String} {e : GridBox α}
    (h : bounds.get? sectionId = some e) (ops : List (Operation α)) :
    ∃ placed, (positionSections bounds ops).boxes.get? sectionId = some placed ∧
      placed.diagonal = e.diagonal ∧
      ∀ b : GridBox α, (positionSections bounds ops).carry sectionId b =
        { b with origin := b.origin - e.origin + placed.origin } := by
  have hdiag := Operation.diagonal_get?_runAll ops
    (bounds.map fun b => { b with origin := gridOrigin }) sectionId
  rw [← boxes_positionSections, IdMap.get?_map, h] at hdiag
  obtain ⟨placed, hplaced, heq⟩ := Option.map_eq_some_iff.mp hdiag
  refine ⟨placed, hplaced, heq, fun b => ?_⟩
  have hcorner : (positionSections bounds ops).corners.get? sectionId = some e.origin := by
    rw [positionSections, IdMap.get?_map, h]
    rfl
  rw [Positioned.carry, hcorner, hplaced]

/-! ## A grid in two steps -/

/-- The bounding boxes of all sections at a breakpoint, arranged among each other. -/
def placementAt (sections : IdMap (LocalBoxes α)) (schedule : Option (Schedule α))
    (bp : Breakpoint) : Positioned α :=
  positionSections ((sectionBounds sections).1.map fun e => e.get bp) (Schedule.at? schedule bp)

/-- The areas of a breakpoint where the operations have put them, before the shift to the first
line. -/
def unshiftedAt (sections : IdMap (LocalBoxes α)) (schedule : Option (Schedule α))
    (bp : Breakpoint) : AreaMap α :=
  (sections.map fun s => s.get bp).mapEntries fun id boxes =>
    boxes.map fun b => GridArea.ofBox ((placementAt sections schedule bp).carry id b)

/-- **A grid is its areas before the shift, shifted.** -/
theorem gridAt_eq (sections : IdMap (LocalBoxes α)) (schedule : Option (Schedule α))
    (bp : Breakpoint) :
    gridAt sections (sectionBounds sections).1 schedule bp =
      { normalizeAt bp (unshiftedAt sections schedule bp)
          (placementAt sections schedule bp).dimensions with
        issues := operationIssues ⟨bp, none⟩ (placementAt sections schedule bp).failures ++
          (normalizeAt bp (unshiftedAt sections schedule bp)
            (placementAt sections schedule bp).dimensions).issues } := rfl

theorem get?_unshiftedAt {sections : IdMap (LocalBoxes α)} {schedule : Option (Schedule α)}
    {bp : Breakpoint} (sectionId : String) :
    (unshiftedAt sections schedule bp).get? sectionId =
      (sections.get? sectionId).map fun s => (s.get bp).map fun b =>
        GridArea.ofBox ((placementAt sections schedule bp).carry sectionId b) := by
  rw [unshiftedAt, IdMap.get?_mapEntries, IdMap.get?_map, Option.map_map]
  rfl

/-- **Every section is placed as a whole**: its bounding box is arranged with its extent, and its
boxes are carried from where the bounding box was to where it is. -/
theorem exists_placement {sections : IdMap (LocalBoxes α)} {sectionId : String} {s : LocalBoxes α}
    (h : sections.get? sectionId = some s) (schedule : Option (Schedule α)) (bp : Breakpoint) :
    ∃ placed, (placementAt sections schedule bp).boxes.get? sectionId = some placed ∧
      placed.diagonal = ((LocalBoxes.bounds s).get bp).diagonal ∧
      ∀ b : GridBox α, (placementAt sections schedule bp).carry sectionId b =
        { b with origin :=
            b.origin - ((LocalBoxes.bounds s).get bp).origin + placed.origin } := by
  have hbound : ((sectionBounds sections).1.map fun e => e.get bp).get? sectionId =
      some ((LocalBoxes.bounds s).get bp) := by
    rw [IdMap.get?_map, sectionBounds, IdMap.get?_map, h]
    rfl
  exact exists_positioned hbound (Schedule.at? schedule bp)

/-! ## A plan at a breakpoint -/

variable (sections : IdMap (LocalBoxes α)) (bounds : IdMap (Bps (GridBox α)))
  (schedule : Option (Schedule α)) (bp : Breakpoint)

/-- **The areas of a plan at a breakpoint are those of its grid there.** -/
theorem sliceAt_assemble :
    sliceAt (assemble sections bounds schedule).1.sections bp =
      (gridAt sections bounds schedule bp).areas := by
  have hkeys : (gridAt sections bounds schedule bp).areas.keys = sections.keys :=
    (keys_assembleAt bp _ _ _).trans (IdMap.keys_map _ _)
  rw [sliceAt, assemble, IdMap.map_mapEntries]
  refine Eq.trans ?_ (IdMap.mapEntries_get? hkeys IdMap.empty)
  refine IdMap.mapEntries_congr fun e _ => ?_
  rw [Bps.get_map, Bps.get_ofFn]
  rfl

theorem dimensions_assemble :
    (assemble sections bounds schedule).1.dimensions.get bp =
      (gridAt sections bounds schedule bp).dimensions := by
  rw [assemble, Bps.get_map, Bps.get_ofFn]
  rfl

theorem normalization_assemble :
    (assemble sections bounds schedule).1.normalization.get bp =
      (gridAt sections bounds schedule bp).shift := by
  rw [assemble, Bps.get_map, Bps.get_ofFn]
  rfl

/-! ## A solve, stage by stage -/

theorem solve_plan (layout : LayoutSpec α) (catalog : Catalog α) (options : Options α) :
    (solve layout catalog options).plan =
      (assemble (layout.arrangeSections catalog options).1
        (sectionBounds (layout.arrangeSections catalog options).1).1 layout.schedule).1 := rfl

theorem issues_stages (layout : LayoutSpec α) (catalog : Catalog α) (options : Options α) :
    (layout.stages catalog options).issues =
      (layout.arrangeSections catalog options).2 ++
        (sectionBounds (layout.arrangeSections catalog options).1).2 ++
        (assemble (layout.arrangeSections catalog options).1
          (sectionBounds (layout.arrangeSections catalog options).1).1 layout.schedule).2 ++
        overlapIssues (solve layout catalog options).plan options.overlapBreakpoints
          options.overlapPolicy := rfl

theorem solve_diagnostics (layout : LayoutSpec α) (catalog : Catalog α) (options : Options α) :
    (solve layout catalog options).diagnostics =
      (layout.stages catalog options).issues.map Issue.diagnostic := rfl

end GridLayout
