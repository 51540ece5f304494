import GridLayout.Proofs.Boxwise
import GridLayout.Proofs.Faultless
import GridLayout.Proofs.Stacking

/-!
# The order of enumeration matters to stacks only

Sections and boxes are listed in an order, and a section may ask for another one.  Without stacks
none of this has a bearing on where a box is published, on how large the grid is, or on how far it
is shifted: all of these are looked up by id, or are the least or the greatest of something.

Two layouts that differ in such orders only are compared stage by stage, at one breakpoint.

* `SectionSpec.get?_startingBoxes`: the boxes of a section, before any operation, by id.
* `enclosing?_eq`: a bounding box depends on which boxes there are.
* `SameSectionsAt`: two lists of arranged sections find the same boxes; their grids then have the
  same dimensions and the same shift (`gridAt_eq_of_sameSections`), and every box the same area
  (`area?_eq_of_sameSections`).
* `solve_eq_of_sameUpToOrder`: two solves.

The bounding boxes and the least starts are computed in exact numbers.
-/

namespace GridLayout

/-! ## Layouts up to order -/

section

variable {α : Type}

/-- Two sections differ in the order in which their boxes are listed, and in the order they ask for.
-/
structure SectionSpec.SameUpToOrder (s t : SectionSpec α) : Prop where
  boxes : s.boxes.entries.Perm t.boxes.entries
  schedule : s.schedule = t.schedule

/-- Two layouts differ in the order in which their sections are listed, and in orders within
sections. -/
structure LayoutSpec.SameUpToOrder (layout layout' : LayoutSpec α) : Prop where
  sectionIds : layout.sections.keys.Perm layout'.sections.keys
  sections : ∀ sectionId s t, layout.sections.get? sectionId = some s →
    layout'.sections.get? sectionId = some t → s.SameUpToOrder t
  schedule : layout.schedule = layout'.schedule

/-- No operation of a layout is a stack at a breakpoint, neither on boxes nor on sections. -/
structure LayoutSpec.StackFreeAt (layout : LayoutSpec α) (bp : Breakpoint) : Prop where
  sections : ∀ sectionId s, layout.sections.get? sectionId = some s →
    ∀ op ∈ Schedule.at? s.schedule bp, op.isStack = false
  layout : ∀ op ∈ Schedule.at? layout.schedule bp, op.isStack = false

variable [Scalar α]

/-! ## Sections -/

namespace SectionSpec

/-- **The boxes of a section before any operation**, by id: a box is there when it has a dimension,
whatever the order of enumeration. -/
theorem get?_startingBoxes (s : SectionSpec α) (sectionId : String) (catalog : Catalog α)
    (options : Options α) (bp : Breakpoint) (boxId : String) :
    (startingBoxes (s.sizedMembers sectionId catalog options) bp).get? boxId =
      (s.dimension? boxId).map fun d =>
        GridBox.atOrigin ((d.sizes catalog options ⟨sectionId, boxId⟩).get bp) := by
  refine Option.ext fun b => ?_
  rw [IdMap.get?_eq_some_iff, entries_startingBoxes, List.mem_map, Option.map_eq_some_iff]
  constructor
  · rintro ⟨m, hm, heq⟩
    obtain ⟨rfl, rfl⟩ := Prod.mk.inj heq
    obtain ⟨d, hd, hsizes⟩ := mem_sizedMembers hm
    exact ⟨d, hd, by rw [hsizes]⟩
  · rintro ⟨d, hd, rfl⟩
    obtain ⟨spec, hspec, -⟩ := Option.bind_eq_some_iff.mp hd
    have hid : boxId ∈ s.memberIds := mem_memberIds.mpr (IdMap.mem_keys_of_get? hspec)
    refine ⟨(boxId, d.sizes catalog options ⟨sectionId, boxId⟩), ?_, rfl⟩
    exact List.mem_filterMap.mpr ⟨boxId, hid, by rw [hd]; rfl⟩

/-- Sections that differ in orders only are arranged alike, when none of their operations is a
stack. -/
theorem SameUpToOrder.outcomeAt {s t : SectionSpec α} (h : s.SameUpToOrder t) {bp : Breakpoint}
    (hops : ∀ op ∈ Schedule.at? s.schedule bp, op.isStack = false) (sectionId : String)
    (catalog : Catalog α) (options : Options α) :
    (s.outcomeAt sectionId catalog options bp).1.SameEntries
      (t.outcomeAt sectionId catalog options bp).1 := by
  have hdimension : ∀ boxId, s.dimension? boxId = t.dimension? boxId := fun boxId => by
    rw [dimension?, dimension?, IdMap.SameEntries.of_perm h.boxes boxId]
  have hstart : (startingBoxes (s.sizedMembers sectionId catalog options) bp).SameEntries
      (startingBoxes (t.sizedMembers sectionId catalog options) bp) := by
    intro boxId
    rw [get?_startingBoxes, get?_startingBoxes, hdimension]
  rw [SectionSpec.outcomeAt, SectionSpec.outcomeAt, ← h.schedule]
  exact Operation.sameEntries_runAll hops hstart

end SectionSpec

/-- Two lists of arranged sections find the same sections, and in each the same boxes at a
breakpoint. -/
def SameSectionsAt (bp : Breakpoint) (sections sections' : IdMap (LocalBoxes α)) : Prop :=
  ∀ sectionId, Option.Rel (fun s t => (s.get bp).SameEntries (t.get bp))
    (sections.get? sectionId) (sections'.get? sectionId)

/-- **Layouts that differ in orders only find the same boxes**, at a breakpoint without stacks. -/
theorem LayoutSpec.SameUpToOrder.sameSectionsAt {layout layout' : LayoutSpec α}
    (h : layout.SameUpToOrder layout') {bp : Breakpoint} (hfree : layout.StackFreeAt bp)
    (catalog : Catalog α) (options : Options α) :
    SameSectionsAt bp (layout.arrangeSections catalog options).1
      (layout'.arrangeSections catalog options).1 := by
  intro sectionId
  rw [arrangeSections_fst, arrangeSections_fst, IdMap.get?_mapEntries, IdMap.get?_mapEntries]
  have hid : sectionId ∈ layout.sections.keys ↔ sectionId ∈ layout'.sections.keys :=
    h.sectionIds.mem_iff
  rw [IdMap.mem_keys, IdMap.mem_keys] at hid
  cases hs : layout.sections.get? sectionId with
  | none =>
    have hnone : layout'.sections.get? sectionId = none := by
      refine Option.eq_none_iff_forall_ne_some.mpr fun t ht => ?_
      obtain ⟨s, hs'⟩ := hid.mpr ⟨t, ht⟩
      exact nomatch hs.symm.trans hs'
    rw [hnone]
    exact Option.Rel.none
  | some s =>
    obtain ⟨t, ht⟩ := hid.mp ⟨s, hs⟩
    rw [ht]
    refine Option.Rel.some ?_
    rw [SectionSpec.get_arrange, SectionSpec.get_arrange]
    exact (h.sections sectionId s t hs ht).outcomeAt (hfree.sections sectionId s hs) _ _ _

end

/-! ## Bounding boxes, in exact numbers -/

/-- **A bounding box depends on which boxes there are**, and not on their order: it is the smallest
box around them. -/
theorem enclosing?_eq {boxes boxes' : BoxMap Rat} (h : boxes.SameEntries boxes') :
    enclosing? boxes = enclosing? boxes' := by
  have hvalues : ∀ b, b ∈ boxes.values ↔ b ∈ boxes'.values := fun _ => h.mem_values
  by_cases hnil : boxes.values = []
  · have hnil' : boxes'.values = [] :=
      List.eq_nil_iff_forall_not_mem.mpr fun b hb => by
        have hmem := (hvalues b).mpr hb
        rw [hnil] at hmem
        exact List.not_mem_nil hmem
    rw [enclosing?, enclosing?, hnil, hnil']
  · obtain ⟨b, hb⟩ := List.exists_mem_of_ne_nil _ hnil
    obtain ⟨e, he, -⟩ := exists_enclosing? hb
    obtain ⟨e', he', -⟩ := exists_enclosing? ((hvalues b).mp hb)
    -- each of the two covers all boxes, and is inside every box that does
    have hle : e.Within e' := enclosing?_within he fun c hc => by
      obtain ⟨_, hf, hc⟩ := exists_enclosing? ((hvalues c).mp hc)
      rwa [Option.some.inj (he'.symm.trans hf)]
    have hge : e'.Within e := enclosing?_within he' fun c hc => by
      obtain ⟨_, hf, hc⟩ := exists_enclosing? ((hvalues c).mpr hc)
      rwa [Option.some.inj (he.symm.trans hf)]
    rw [he, he', hle.antisymm hge]

/-! ## Areas up to order -/

/-- The area of a box among the areas of one breakpoint. -/
def AreaMap.area? {α : Type} (areas : AreaMap α) (sectionId boxId : String) : Option (GridArea α) :=
  (areas.get? sectionId).bind fun s => s.get? boxId

theorem AreaMap.mem_placed_iff_area? {α : Type} {areas : AreaMap α} {p : GridPlan.Placed α} :
    p ∈ AreaMap.placed areas ↔ AreaMap.area? areas p.sectionId p.boxId = some p.area := by
  rw [mem_placed, area?, Option.bind_eq_some_iff]

/-- The least start is the least on each axis. -/
theorem isLeast_leastStart? {areas : AreaMap Rat} {least : Coordinate Rat}
    (h : leastStart? areas = some least) (axis : Axis) :
    IsLeast {v | ∃ p ∈ AreaMap.placed areas, v = p.area.start.along axis} (least.along axis) := by
  cases hplaced : AreaMap.placed areas with
  | nil => exact nomatch (leastStart?_of_nil hplaced).symm.trans h
  | cons p rest =>
    have hleast := Coordinate.isLeast_foldl_min (rest.map fun q => q.area.start) p.area.start axis
    rw [leastStart?_of_cons hplaced] at h
    rw [← Option.some.inj h]
    simp only [List.mem_cons, exists_eq_or_imp]
    simp only [List.mem_map, exists_exists_and_eq_and] at hleast
    exact hleast

/-- **The least start depends on which areas there are.** -/
theorem leastStart?_eq {areas areas' : AreaMap Rat}
    (h : ∀ sectionId boxId, AreaMap.area? areas sectionId boxId =
      AreaMap.area? areas' sectionId boxId) : leastStart? areas = leastStart? areas' := by
  have hplaced : ∀ p, p ∈ AreaMap.placed areas ↔ p ∈ AreaMap.placed areas' := by
    intro p
    rw [AreaMap.mem_placed_iff_area?, AreaMap.mem_placed_iff_area?, h]
  cases hp : AreaMap.placed areas with
  | nil =>
    have hnil : AreaMap.placed areas' = [] :=
      List.eq_nil_iff_forall_not_mem.mpr fun p hmem => by
        rw [← hplaced, hp] at hmem
        exact List.not_mem_nil hmem
    rw [leastStart?_of_nil hp, leastStart?_of_nil hnil]
  | cons p rest =>
    have hmem : p ∈ AreaMap.placed areas' := (hplaced p).mp (hp ▸ List.mem_cons_self)
    obtain ⟨p', rest', hp'⟩ := List.exists_cons_of_ne_nil (List.ne_nil_of_mem hmem)
    have hleast := leastStart?_of_cons hp
    have hleast' := leastStart?_of_cons hp'
    have halong : ∀ axis, ((rest.map fun q => q.area.start).foldl Coordinate.min
          p.area.start).along axis =
        ((rest'.map fun q => q.area.start).foldl Coordinate.min p'.area.start).along axis := by
      intro axis
      have hother := isLeast_leastStart? hleast' axis
      simp only [← hplaced] at hother
      exact (isLeast_leastStart? hleast axis).unique hother
    rw [hleast, hleast']
    exact congrArg some (Coordinate.ext (halong .x) (halong .y))

/-- The dimensions and the shift of a grid depend on the areas by their least start. -/
theorem normalizeAt_congr {α : Type} [Scalar α] {areas areas' : AreaMap α}
    (h : leastStart? areas = leastStart? areas') (bp : Breakpoint) (d : GridDimensions α) :
    (normalizeAt bp areas d).dimensions = (normalizeAt bp areas' d).dimensions ∧
      (normalizeAt bp areas d).shift = (normalizeAt bp areas' d).shift := by
  unfold normalizeAt
  rw [h]
  split
  · exact ⟨rfl, rfl⟩
  · split
    · exact ⟨rfl, rfl⟩
    · exact ⟨rfl, rfl⟩

/-- **The area of a box on a grid** is its area before the shift, shifted. -/
theorem area?_assemble (sections : IdMap (LocalBoxes Rat)) (schedule : Option (Schedule Rat))
    (bp : Breakpoint) (sectionId boxId : String) :
    (assemble sections (sectionBounds sections).1 schedule).1.area? sectionId bp boxId =
      (AreaMap.area? (unshiftedAt sections schedule bp) sectionId boxId).map fun a =>
        a.translate (gridAt sections (sectionBounds sections).1 schedule bp).shift := by
  have hslice : ∀ plan : GridPlan Rat, plan.area? sectionId bp boxId =
      AreaMap.area? (sliceAt plan.sections bp) sectionId boxId := by
    intro plan
    rw [GridPlan.area?, AreaMap.area?, sliceAt, IdMap.get?_map, Option.bind_map]
    rfl
  rw [hslice, sliceAt_assemble, areas_gridAt, AreaMap.area?, IdMap.get?_map, AreaMap.area?,
    Option.bind_map, Option.map_bind]
  refine congrArg (Option.bind _) (funext fun s => ?_)
  exact IdMap.get?_map _ s boxId

/-! ## Grids up to order -/

/-- The dimensions depend on which bounding boxes there are. -/
theorem Positioned.dimensions_eq {p q : Positioned Rat} (h : p.boxes.SameEntries q.boxes) :
    p.dimensions = q.dimensions := by
  have halong : ∀ axis, p.dimensions.corner.along axis = q.dimensions.corner.along axis := by
    intro axis
    have hq := q.isGreatest_dimensions axis
    simp only [← h.mem_values] at hq
    exact (p.isGreatest_dimensions axis).unique hq
  exact GridDimensions.ext (halong .x) (halong .y)

section

variable {bp : Breakpoint} {sections sections' : IdMap (LocalBoxes Rat)}
  (h : SameSectionsAt bp sections sections')
include h

/-- Sections with the same boxes have the same bounding boxes. -/
theorem sameEntries_bounds :
    ((sectionBounds sections).1.map fun e => e.get bp).SameEntries
      ((sectionBounds sections').1.map fun e => e.get bp) := by
  intro sectionId
  have hrel := h sectionId
  rw [slice_sectionBounds, slice_sectionBounds]
  simp only [IdMap.get?_map, Option.map_map]
  generalize sections.get? sectionId = s at hrel
  generalize sections'.get? sectionId = s' at hrel
  cases hrel with
  | none => rfl
  | some hst =>
    rw [Option.map_some, Option.map_some, Function.comp_apply, Function.comp_apply,
      enclosing?_eq hst]

variable {schedule : Option (Schedule Rat)}
  (hops : ∀ op ∈ Schedule.at? schedule bp, op.isStack = false)
include hops

/-- **The bounding boxes are arranged alike**, when no operation of the layout is a stack. -/
theorem sameEntries_placementAt :
    (placementAt sections schedule bp).boxes.SameEntries
      (placementAt sections' schedule bp).boxes := by
  rw [placementAt, placementAt, boxes_positionSections, boxes_positionSections]
  exact Operation.sameEntries_runAll hops ((sameEntries_bounds h).mapEntries _)

/-- Every box is carried to the same place. -/
theorem carry_eq_of_sameSections (sectionId : String) (b : GridBox Rat) :
    (placementAt sections schedule bp).carry sectionId b =
      (placementAt sections' schedule bp).carry sectionId b := by
  have hcorners : (placementAt sections schedule bp).corners.SameEntries
      (placementAt sections' schedule bp).corners :=
    (sameEntries_bounds h).mapEntries fun _ e => e.origin
  rw [Positioned.carry, Positioned.carry, hcorners sectionId,
    sameEntries_placementAt h hops sectionId]

/-- **Every box has the same area before the shift.** -/
theorem area?_unshiftedAt_eq (sectionId boxId : String) :
    AreaMap.area? (unshiftedAt sections schedule bp) sectionId boxId =
      AreaMap.area? (unshiftedAt sections' schedule bp) sectionId boxId := by
  have hrel := h sectionId
  rw [AreaMap.area?, AreaMap.area?, get?_unshiftedAt, get?_unshiftedAt]
  simp only [carry_eq_of_sameSections h hops sectionId]
  generalize sections.get? sectionId = s at hrel
  generalize sections'.get? sectionId = s' at hrel
  cases hrel with
  | none => rfl
  | some hst =>
    rw [Option.map_some, Option.map_some, Option.bind_some, Option.bind_some, IdMap.get?_map,
      IdMap.get?_map, hst boxId]

/-- **Grids of sections with the same boxes** have the same dimensions and the same shift. -/
theorem gridAt_eq_of_sameSections :
    (gridAt sections (sectionBounds sections).1 schedule bp).dimensions =
        (gridAt sections' (sectionBounds sections').1 schedule bp).dimensions ∧
      (gridAt sections (sectionBounds sections).1 schedule bp).shift =
        (gridAt sections' (sectionBounds sections').1 schedule bp).shift := by
  have hleast := leastStart?_eq (area?_unshiftedAt_eq h hops)
  have hdimensions := Positioned.dimensions_eq (sameEntries_placementAt h hops)
  rw [gridAt_eq, gridAt_eq, hdimensions]
  exact normalizeAt_congr hleast bp _

/-- **Plans of sections with the same boxes** give every box the same area. -/
theorem area?_eq_of_sameSections (sectionId boxId : String) :
    (assemble sections (sectionBounds sections).1 schedule).1.area? sectionId bp boxId =
      (assemble sections' (sectionBounds sections').1 schedule).1.area? sectionId bp boxId := by
  rw [area?_assemble, area?_assemble, area?_unshiftedAt_eq h hops,
    (gridAt_eq_of_sameSections h hops).2]

end

/-! ## Two solves -/

/-- **The order of enumeration matters to stacks only.**  When two layouts differ only in the orders
in which their sections and boxes are listed and in the orders that sections ask for, and none of
their operations at a breakpoint is a stack, then with the same catalog and the same options every
box is published with the same area at that breakpoint, the grid has the same dimensions, and it is
shifted by the same amount. -/
theorem solve_eq_of_sameUpToOrder {layout layout' : LayoutSpec Rat}
    (h : layout.SameUpToOrder layout') {bp : Breakpoint} (hfree : layout.StackFreeAt bp)
    (catalog : Catalog Rat) (options : Options Rat) :
    (∀ sectionId boxId, (solve layout catalog options).plan.area? sectionId bp boxId =
        (solve layout' catalog options).plan.area? sectionId bp boxId) ∧
      (solve layout catalog options).plan.dimensions.get bp =
        (solve layout' catalog options).plan.dimensions.get bp ∧
      (solve layout catalog options).plan.normalization.get bp =
        (solve layout' catalog options).plan.normalization.get bp := by
  have hsame := h.sameSectionsAt hfree catalog options
  obtain ⟨hdimensions, hshift⟩ := gridAt_eq_of_sameSections hsame hfree.layout
  rw [solve_plan, solve_plan, ← h.schedule]
  refine ⟨area?_eq_of_sameSections hsame hfree.layout, ?_, ?_⟩
  · rw [dimensions_assemble, dimensions_assemble, hdimensions]
  · rw [normalization_assemble, normalization_assemble, hshift]

/-- Operations on two boxes, one of which is named that is not there. -/
def squeeze : Schedule Rat :=
  .uniform [.alignAll .x (.value 3) (.valid "center") none,
    .moveTo (.valid ⟨"a", "topLeft"⟩) (.anchor ⟨"b", "bottomRight"⟩) (some (.uniform (1 / 2))),
    .moveBy (.valid ⟨"ghost"⟩) (.uniform 1) none]

/-- Two sections, the second in line with the first. -/
def queueOf (sections : IdMap (SectionSpec Rat)) : LayoutSpec Rat :=
  ⟨sections, some (.uniform [.align .y (.valid ⟨"left", "bottomLeft"⟩)
    (.anchor ⟨"right", "topRight"⟩) (some (.valid (-3)))])⟩

/-- The two sections in one order. -/
def queue : LayoutSpec Rat :=
  queueOf (IdMap.ofList [
    ("left", ⟨IdMap.ofList [("a", ⟨some (.uniform "wide")⟩), ("b", ⟨some (.uniform "tall")⟩)],
      some squeeze, some ["b", "ghost", "b"]⟩),
    ("right", ⟨IdMap.ofList [("c", ⟨some (.uniform "unit")⟩)], none, none⟩)])

/-- The two sections, and the boxes of the first, in the other order. -/
def reversedQueue : LayoutSpec Rat :=
  queueOf (IdMap.ofList [
    ("right", ⟨IdMap.ofList [("c", ⟨some (.uniform "unit")⟩)], none, none⟩),
    ("left", ⟨IdMap.ofList [("b", ⟨some (.uniform "tall")⟩), ("a", ⟨some (.uniform "wide")⟩)],
      some squeeze, some ["a"]⟩)])

theorem queue_sameUpToOrder : queue.SameUpToOrder reversedQueue where
  sectionIds := List.Perm.swap "right" "left" []
  sections := by
    intro sectionId s t hs ht
    rcases List.mem_cons.mp (IdMap.get?_eq_some_iff.mp hs) with hleft | hright
    · obtain ⟨rfl, rfl⟩ := Prod.mk.inj hleft
      obtain rfl := Option.some.inj ht
      exact ⟨List.Perm.swap _ _ [], rfl⟩
    · obtain ⟨rfl, rfl⟩ := Prod.mk.inj (List.mem_singleton.mp hright)
      obtain rfl := Option.some.inj ht
      exact ⟨List.Perm.refl _, rfl⟩
  schedule := rfl

theorem queue_stackFreeAt : queue.StackFreeAt .sm where
  sections := by
    intro sectionId s hs
    rcases List.mem_cons.mp (IdMap.get?_eq_some_iff.mp hs) with hleft | hright
    · obtain ⟨-, rfl⟩ := Prod.mk.inj hleft
      decide
    · obtain ⟨-, rfl⟩ := Prod.mk.inj (List.mem_singleton.mp hright)
      decide
  layout := by decide

theorem queue_solve_eq :
    queue.SameUpToOrder reversedQueue ∧ queue.StackFreeAt .sm ∧
      (solve queue threeShapes Options.default).plan.area? "left" .sm "a" =
        (solve reversedQueue threeShapes Options.default).plan.area? "left" .sm "a" ∧
      (solve reversedQueue threeShapes Options.default).plan.area? "left" .sm "a" ≠ none ∧
      (solve queue threeShapes Options.default).plan.dimensions.get .sm =
        (solve reversedQueue threeShapes Options.default).plan.dimensions.get .sm ∧
      (solve queue threeShapes Options.default).plan.normalization.get .sm =
        (solve reversedQueue threeShapes Options.default).plan.normalization.get .sm := by
  obtain ⟨hareas, hdimensions, hshift⟩ := solve_eq_of_sameUpToOrder queue_sameUpToOrder
    queue_stackFreeAt threeShapes Options.default
  exact ⟨queue_sameUpToOrder, queue_stackFreeAt, hareas "left" "a", by decide +kernel, hdimensions,
    hshift⟩

end GridLayout
