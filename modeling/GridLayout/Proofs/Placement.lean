import GridLayout.Proofs.Breakpoints
import GridLayout.Proofs.GridLines

/-!
# Areas before and after the shift

At a breakpoint, the boxes of the sections become areas where the operations have put them, and then
all areas are shifted to the first line.  What is published is known box by box from these two
steps.

* `keys_gridAt`: every section lists the boxes it was arranged with.
* `areas_gridAt`, `mem_placedAt_iff`: in exact numbers an area is published where its box was
  carried, moved by the shift of the breakpoint, which is the same for all boxes.
* `Input.mem_placedAt_solution`: so every published box is a box of an arranged section.
-/

namespace GridLayout

section

variable {α : Type} [Scalar α]

/-! ## Sections and their boxes -/

variable {sections : IdMap (LocalBoxes α)} {schedule : Option (Schedule α)} {bp : Breakpoint}

/-- Shifting areas keeps the ids of the boxes and their order. -/
theorem keys_areas_normalizeAt (bp : Breakpoint) (areas : AreaMap α) (d : GridDimensions α) :
    (normalizeAt bp areas d).areas.map IdMap.keys = areas.map IdMap.keys := by
  unfold normalizeAt
  split
  · rfl
  · split
    · rfl
    · rw [IdMap.map_map]
      exact IdMap.map_congr fun s _ => IdMap.keys_map _ s

/-- **Every section lists the boxes it was arranged with**, in their order. -/
theorem keys_gridAt :
    (gridAt sections (sectionBounds sections).1 schedule bp).areas.map IdMap.keys =
      sections.map fun s => (s.get bp).keys := by
  rw [gridAt_eq, keys_areas_normalizeAt, unshiftedAt, IdMap.map_mapEntries, IdMap.mapEntries_map]
  exact IdMap.mapEntries_congr fun e _ => IdMap.keys_map _ (e.2.get bp)

end

/-! ## Exact numbers -/

/-- **All areas of a breakpoint are shifted by the published amount.** -/
theorem areas_gridAt (sections : IdMap (LocalBoxes Rat)) (schedule : Option (Schedule Rat))
    (bp : Breakpoint) :
    (gridAt sections (sectionBounds sections).1 schedule bp).areas =
      (unshiftedAt sections schedule bp).map fun s => s.map fun a =>
        a.translate (gridAt sections (sectionBounds sections).1 schedule bp).shift :=
  areas_normalizeAt bp _ _

/-- **Where a box is published**: where it was carried, moved by the shift of the breakpoint. -/
theorem mem_placedAt_iff {sections : IdMap (LocalBoxes Rat)} {schedule : Option (Schedule Rat)}
    {bp : Breakpoint} {p : GridPlan.Placed Rat} :
    p ∈ (assemble sections (sectionBounds sections).1 schedule).1.placedAt bp ↔
      ∃ s b, sections.get? p.sectionId = some s ∧ (s.get bp).get? p.boxId = some b ∧
        p.area = (GridArea.ofBox ((placementAt sections schedule bp).carry p.sectionId b)).translate
          (gridAt sections (sectionBounds sections).1 schedule bp).shift := by
  rw [GridPlan.placedAt_eq, sliceAt_assemble, AreaMap.mem_placed, areas_gridAt, IdMap.get?_map,
    get?_unshiftedAt]
  constructor
  · rintro ⟨areas, hareas, harea⟩
    obtain ⟨_, hunshifted, rfl⟩ := Option.map_eq_some_iff.mp hareas
    obtain ⟨s, hs, rfl⟩ := Option.map_eq_some_iff.mp hunshifted
    rw [IdMap.get?_map, IdMap.get?_map, Option.map_map] at harea
    obtain ⟨b, hb, heq⟩ := Option.map_eq_some_iff.mp harea
    exact ⟨s, b, hs, hb, heq.symm⟩
  · rintro ⟨s, b, hs, hb, heq⟩
    rw [hs, Option.map_some, Option.map_some]
    refine ⟨_, rfl, ?_⟩
    rw [IdMap.get?_map, IdMap.get?_map, hb, heq]
    rfl

/-! ## A solve -/

namespace Input

theorem get?_arranged {α : Type} [Scalar α] (i : Input α) (sectionId : String) :
    i.arranged.get? sectionId = (i.layout.sections.get? sectionId).map fun s =>
      (s.arrange sectionId i.catalog i.options).1 := by
  rw [arranged, LayoutSpec.arrangeSections_fst, IdMap.get?_mapEntries]

theorem get?_arranged_of_some {α : Type} [Scalar α] {i : Input α} {sectionId : String}
    {s : SectionSpec α} (hs : i.layout.sections.get? sectionId = some s) :
    i.arranged.get? sectionId = some (s.arrange sectionId i.catalog i.options).1 := by
  rw [get?_arranged, hs, Option.map_some]

/-- **Every published box is a box of an arranged section**, carried with its section and shifted
with all boxes. -/
theorem mem_placedAt_solution {i : Input Rat} {bp : Breakpoint} {p : GridPlan.Placed Rat} :
    p ∈ i.solution.plan.placedAt bp ↔
      ∃ s b, i.layout.sections.get? p.sectionId = some s ∧
        ((s.arrange p.sectionId i.catalog i.options).1.get bp).get? p.boxId = some b ∧
        p.area = (GridArea.ofBox ((placementAt i.arranged i.layout.schedule bp).carry p.sectionId
          b)).translate (i.solution.plan.normalization.get bp) := by
  have hshift : i.solution.plan.normalization.get bp =
      (gridAt i.arranged (sectionBounds i.arranged).1 i.layout.schedule bp).shift :=
    normalization_assemble _ _ _ bp
  have hiff : p ∈ i.solution.plan.placedAt bp ↔
      ∃ s b, i.arranged.get? p.sectionId = some s ∧ (s.get bp).get? p.boxId = some b ∧
        p.area = (GridArea.ofBox ((placementAt i.arranged i.layout.schedule bp).carry p.sectionId
          b)).translate
            (gridAt i.arranged (sectionBounds i.arranged).1 i.layout.schedule bp).shift :=
    mem_placedAt_iff
  rw [← hshift, get?_arranged] at hiff
  refine hiff.trans ⟨?_, ?_⟩
  · rintro ⟨_, b, harranged, hb, harea⟩
    obtain ⟨s, hs, rfl⟩ := Option.map_eq_some_iff.mp harranged
    exact ⟨s, b, hs, hb, harea⟩
  · rintro ⟨s, b, hs, hb, harea⟩
    exact ⟨_, b, Option.map_eq_some_iff.mpr ⟨s, hs, rfl⟩, hb, harea⟩

end Input

end GridLayout
