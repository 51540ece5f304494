import GridLayout.Proofs.Sizes

/-!
# Published areas lie on their grid

A published area has a positive extent, starts on the first line or later, and ends within the
dimensions of its grid, on both axes and at every breakpoint.  Operations may put boxes anywhere;
what makes the statement true is that three things move together.

* A box of a section lies inside the bounding box of the section, before and after the bounding box
  is arranged (`Positioned.within_carry`), because both are moved by the same amount.
* The dimensions reach at least to the far corner of every arranged bounding box
  (`Positioned.isGreatest_dimensions`).
* The shift that brings the areas to the first line moves areas and dimensions alike
  (`normalizeAt_of_least`).

Everything is in exact numbers.
-/

namespace GridLayout

/-! ## Corners -/

section

variable {α : Type} [Scalar α]

/-- The corner with the greatest lines of an area. -/
def GridArea.finish (a : GridArea α) : Coordinate α := ⟨a.colEnd, a.rowEnd⟩

/-- The last lines of a grid, as a point. -/
def GridDimensions.corner (d : GridDimensions α) : Coordinate α := ⟨d.columns, d.rows⟩

@[simp] theorem GridArea.start_ofBox (b : GridBox α) : (GridArea.ofBox b).start = b.origin := rfl

@[simp] theorem GridArea.finish_ofBox (b : GridBox α) :
    (GridArea.ofBox b).finish = b.farCorner := rfl

@[simp] theorem GridArea.start_translate (a : GridArea α) (d : Coordinate α) :
    (a.translate d).start = a.start + d := rfl

@[simp] theorem GridArea.finish_translate (a : GridArea α) (d : Coordinate α) :
    (a.translate d).finish = a.finish + d := rfl

@[simp] theorem GridDimensions.corner_grow (d : GridDimensions α) (shift : Coordinate α) :
    (d.grow shift).corner = d.corner + shift := rfl

end

/-! ## Arranged sections -/

/-- **A box inside a bounding box stays inside** when both are carried along. -/
theorem Positioned.within_carry {p : Positioned Rat} {sectionId : String}
    {b e placed : GridBox Rat} (hb : b.Within e) (hdiag : placed.diagonal = e.diagonal)
    (hcarry : p.carry sectionId b = { b with origin := b.origin - e.origin + placed.origin }) :
    (p.carry sectionId b).Within placed where
  origin_le axis := by
    rw [hcarry, Coordinate.along_add, Coordinate.along_sub]
    have h := hb.origin_le axis
    linarith
  far_le axis := by
    have h := hb.far_le axis
    rw [GridBox.along_farCorner, GridBox.along_farCorner] at h
    rw [hcarry, GridBox.along_farCorner, GridBox.along_farCorner, Coordinate.along_add,
      Coordinate.along_sub, hdiag]
    linarith

/-- **The dimensions of a grid** are the farthest that a bounding box reaches, or nothing where all
of them end before the origin. -/
theorem Positioned.isGreatest_dimensions (p : Positioned Rat) (axis : Axis) :
    IsGreatest {v | v = 0 ∨ ∃ b ∈ p.boxes.values, v = b.farCorner.along axis}
      (p.dimensions.corner.along axis) := by
  have hfold := isGreatest_foldl
    (f := fun c : Coordinate Rat => c.along axis)
    (k := fun b : GridBox Rat => b.farCorner.along axis)
    (fun c b => (Coordinate.along_max c b.farCorner axis).trans (Scalar.max_rat _ _))
    p.boxes.values Coordinate.zero
  rw [Coordinate.along_zero, Scalar.zero_rat] at hfold
  exact hfold

theorem Positioned.far_le_dimensions {p : Positioned Rat} {sectionId : String} {b : GridBox Rat}
    (hb : p.boxes.get? sectionId = some b) (axis : Axis) :
    b.farCorner.along axis ≤ p.dimensions.corner.along axis :=
  (p.isGreatest_dimensions axis).2 (Or.inr ⟨b, IdMap.mem_values.mpr ⟨sectionId, hb⟩, rfl⟩)

/-! ## The shift to the first line -/

theorem GridArea.translate_zero (a : GridArea Rat) : a.translate Coordinate.zero = a := by
  ext <;> exact add_zero _

theorem GridDimensions.grow_zero (d : GridDimensions Rat) : d.grow Coordinate.zero = d := by
  ext <;> exact add_zero _

theorem shiftToOne_rat (v : Rat) : shiftToOne v = Max.max (1 - v) 0 := Scalar.max_rat _ _

/-- Where there is an area there is a least start, and the area does not start before it. -/
theorem exists_leastStart? {areas : AreaMap Rat} {s : IdMap (GridArea Rat)} {a : GridArea Rat}
    (hs : s ∈ areas.values) (ha : a ∈ s.values) :
    ∃ least, leastStart? areas = some least ∧ ∀ axis, least.along axis ≤ a.start.along axis := by
  have hmem : a.start ∈ areas.values.flatMap fun s => s.values.map GridArea.start :=
    List.mem_flatMap.mpr ⟨s, hs, List.mem_map_of_mem ha⟩
  rw [leastStart?]
  cases hstarts : areas.values.flatMap fun s => s.values.map GridArea.start with
  | nil =>
    rw [hstarts] at hmem
    exact absurd hmem List.not_mem_nil
  | cons c rest =>
    rw [hstarts] at hmem
    refine ⟨rest.foldl Coordinate.min c, rfl, fun axis => ?_⟩
    have hleast := Coordinate.isLeast_foldl_min rest c axis
    rcases List.mem_cons.mp hmem with heq | hrest
    · exact hleast.2 (Or.inl (by rw [heq]))
    · exact hleast.2 (Or.inr ⟨a.start, hrest, rfl⟩)

/-- **All areas are shifted by one amount.** -/
theorem areas_normalizeAt (bp : Breakpoint) (areas : AreaMap Rat) (d : GridDimensions Rat) :
    (normalizeAt bp areas d).areas =
      areas.map fun s => s.map fun a => a.translate (normalizeAt bp areas d).shift := by
  have hzero : (areas.map fun s => s.map fun a => a.translate Coordinate.zero) = areas :=
    IdMap.map_eq_self fun s _ => IdMap.map_eq_self fun a _ => a.translate_zero
  unfold normalizeAt
  split
  · exact hzero.symm
  · split
    · exact hzero.symm
    · rfl

/-- **The dimensions grow by the shift**, which is on each axis what the least start lacks to one.
Where all areas are on the grid already, that is nothing on both axes. -/
theorem normalizeAt_of_least {areas : AreaMap Rat} {least : Coordinate Rat}
    (h : leastStart? areas = some least) (bp : Breakpoint) (d : GridDimensions Rat) :
    (normalizeAt bp areas d).dimensions = d.grow (normalizeAt bp areas d).shift ∧
      ∀ axis, (normalizeAt bp areas d).shift.along axis = Max.max (1 - least.along axis) 0 := by
  unfold normalizeAt
  rw [h]
  dsimp only
  split
  · next hgrid =>
    rw [onGrid, Bool.and_eq_true] at hgrid
    refine ⟨(GridDimensions.grow_zero d).symm, fun axis => ?_⟩
    have hone : (1 : Rat) ≤ least.along axis := by
      cases axis with
      | x => exact of_decide_eq_true hgrid.1
      | y => exact of_decide_eq_true hgrid.2
    rw [Coordinate.along_zero, Scalar.zero_rat, max_eq_right (by linarith)]
  · refine ⟨rfl, fun axis => ?_⟩
    cases axis with
    | x => exact shiftToOne_rat least.x
    | y => exact shiftToOne_rat least.y

/-- An area has a positive extent, starts on the first line or later, and ends within a grid. -/
structure GridArea.OnGrid (a : GridArea Rat) (d : GridDimensions Rat) : Prop where
  one_le_start : ∀ axis, 1 ≤ a.start.along axis
  start_lt_finish : ∀ axis, a.start.along axis < a.finish.along axis
  finish_le : ∀ axis, a.finish.along axis ≤ d.corner.along axis

/-- **Normalizing puts areas on the grid**, when they have a positive extent and end within the
dimensions. -/
theorem normalizeAt_onGrid {areas : AreaMap Rat} {d : GridDimensions Rat}
    (hareas : ∀ s ∈ areas.values, ∀ a ∈ s.values, ∀ axis,
      a.start.along axis < a.finish.along axis ∧ a.finish.along axis ≤ d.corner.along axis)
    (bp : Breakpoint) :
    ∀ s ∈ (normalizeAt bp areas d).areas.values, ∀ a ∈ s.values,
      a.OnGrid (normalizeAt bp areas d).dimensions := by
  intro s hs a ha
  rw [areas_normalizeAt, IdMap.values_map] at hs
  obtain ⟨s₀, hs₀, rfl⟩ := List.mem_map.mp hs
  rw [IdMap.values_map] at ha
  obtain ⟨a₀, ha₀, rfl⟩ := List.mem_map.mp ha
  obtain ⟨least, hleast, hle⟩ := exists_leastStart? hs₀ ha₀
  obtain ⟨hdim, hshift⟩ := normalizeAt_of_least hleast bp d
  rw [hdim]
  refine ⟨fun axis => ?_, fun axis => ?_, fun axis => ?_⟩
  · have hmax := le_max_left (1 - least.along axis) 0
    have hstart := hle axis
    rw [GridArea.start_translate, Coordinate.along_add, hshift axis]
    linarith
  · have hlt := (hareas s₀ hs₀ a₀ ha₀ axis).1
    rw [GridArea.start_translate, GridArea.finish_translate, Coordinate.along_add,
      Coordinate.along_add]
    linarith
  · have hfar := (hareas s₀ hs₀ a₀ ha₀ axis).2
    rw [GridArea.finish_translate, GridDimensions.corner_grow, Coordinate.along_add,
      Coordinate.along_add]
    linarith

/-! ## Published areas -/

/-- **The areas of a grid lie on it**, when every box has a positive extent and the bounding boxes
are those of the sections. -/
theorem gridAt_onGrid {sections : IdMap (LocalBoxes Rat)} {bp : Breakpoint}
    (hpos : ∀ boxes ∈ sections.values, ∀ b ∈ (boxes.get bp).values, ∀ axis,
      0 < b.diagonal.along axis) (schedule : Option (Schedule Rat)) :
    ∀ s ∈ (gridAt sections (sectionBounds sections).1 schedule bp).areas.values, ∀ a ∈ s.values,
      a.OnGrid (gridAt sections (sectionBounds sections).1 schedule bp).dimensions := by
  rw [gridAt_eq]
  refine normalizeAt_onGrid (fun s hs a ha axis => ?_) bp
  obtain ⟨sectionId, hid⟩ := IdMap.mem_values.mp hs
  rw [get?_unshiftedAt] at hid
  obtain ⟨boxes, hboxes, rfl⟩ := Option.map_eq_some_iff.mp hid
  obtain ⟨b, hb, rfl⟩ := List.mem_map.mp (IdMap.values_map _ _ ▸ ha)
  obtain ⟨placed, hplaced, hdiag, hcarry⟩ := exists_placement hboxes schedule bp
  have hwithin := Positioned.within_carry (LocalBoxes.within_bounds boxes bp hb) hdiag (hcarry b)
  have hb' : 0 < b.diagonal.along axis :=
    hpos boxes (IdMap.mem_values.mpr ⟨sectionId, hboxes⟩) b hb axis
  rw [GridArea.start_ofBox, GridArea.finish_ofBox]
  constructor
  · rw [GridBox.along_farCorner, hcarry b]
    exact lt_add_of_pos_right _ hb'
  · exact (hwithin.far_le axis).trans (Positioned.far_le_dimensions hplaced axis)

/-- Every arranged box of a layout has a positive extent. -/
theorem LayoutSpec.arrangeSections_positive {layout : LayoutSpec Rat} {catalog : Catalog Rat}
    {options : Options Rat} {bp : Breakpoint} {boxes : LocalBoxes Rat}
    (hboxes : boxes ∈ (layout.arrangeSections catalog options).1.values) {b : GridBox Rat}
    (hb : b ∈ (boxes.get bp).values) (axis : Axis) : 0 < b.diagonal.along axis := by
  rw [arrangeSections_fst] at hboxes
  obtain ⟨sectionId, hid⟩ := IdMap.mem_values.mp hboxes
  rw [IdMap.get?_mapEntries] at hid
  obtain ⟨s, -, rfl⟩ := Option.map_eq_some_iff.mp hid
  exact SectionSpec.arrange_positive hb axis

/-- **Every published area lies on its grid.**  Whatever the layout, the catalog and the options
say, and wherever operations put boxes and sections, at every breakpoint an area starts on line one
or later, ends after it starts, and ends within the dimensions, in columns and in rows. -/
theorem solve_area_on_grid (layout : LayoutSpec Rat) (catalog : Catalog Rat)
    (options : Options Rat) (bp : Breakpoint) (p : GridPlan.Placed Rat)
    (hp : p ∈ (solve layout catalog options).plan.placedAt bp) :
    (1 ≤ p.area.colStart ∧ p.area.colStart < p.area.colEnd ∧
        p.area.colEnd ≤ ((solve layout catalog options).plan.dimensions.get bp).columns) ∧
      (1 ≤ p.area.rowStart ∧ p.area.rowStart < p.area.rowEnd ∧
        p.area.rowEnd ≤ ((solve layout catalog options).plan.dimensions.get bp).rows) := by
  rw [solve_plan, GridPlan.placedAt_eq, sliceAt_assemble, AreaMap.mem_placed] at hp
  obtain ⟨s, hs, ha⟩ := hp
  have hgrid := gridAt_onGrid (fun _ hboxes _ hb => LayoutSpec.arrangeSections_positive hboxes hb)
    layout.schedule s (IdMap.mem_values.mpr ⟨_, hs⟩) p.area (IdMap.mem_values.mpr ⟨_, ha⟩)
  rw [solve_plan, dimensions_assemble]
  exact ⟨⟨hgrid.one_le_start .x, hgrid.start_lt_finish .x, hgrid.finish_le .x⟩,
    ⟨hgrid.one_le_start .y, hgrid.start_lt_finish .y, hgrid.finish_le .y⟩⟩

/-- Three shapes. -/
def threeShapes : Catalog Rat := fun name =>
  [("unit", (1, 1)), ("wide", (4, 1)), ("tall", (2, 3))].lookup name

/-- Two sections: one with a box that is pushed off the grid, and one that is pushed off it as a
whole. -/
def scatteredLayout : LayoutSpec Rat where
  sections := IdMap.ofList [
    ("left", ⟨IdMap.ofList [("a", ⟨some (.uniform "wide")⟩), ("b", ⟨some (.uniform "tall")⟩)],
      some (.uniform [.stacked .y 2, .moveBy (.valid ⟨"a"⟩) (.vector ⟨-7, -5 / 2⟩) none]), none⟩),
    ("right", ⟨IdMap.ofList [("c", ⟨some (.uniform "unit")⟩)], none, none⟩)]
  schedule := some (.uniform [.moveBy (.valid ⟨"right"⟩) (.uniform (-10)) none])

theorem scattered_area_on_grid :
    ⟨"left", "b", ⟨18, 20, 33 / 2, 39 / 2⟩⟩ ∈
        (solve scatteredLayout threeShapes Options.default).plan.placedAt .md ∧
      ((1 : Rat) ≤ 18 ∧ (18 : Rat) < 20 ∧ 20 ≤
        ((solve scatteredLayout threeShapes Options.default).plan.dimensions.get .md).columns) ∧
      ((1 : Rat) ≤ 33 / 2 ∧ (33 / 2 : Rat) < 39 / 2 ∧ 39 / 2 ≤
        ((solve scatteredLayout threeShapes Options.default).plan.dimensions.get .md).rows) := by
  have hp : ⟨"left", "b", ⟨18, 20, 33 / 2, 39 / 2⟩⟩ ∈
      (solve scatteredLayout threeShapes Options.default).plan.placedAt .md := by
    decide +kernel
  exact ⟨hp, solve_area_on_grid scatteredLayout threeShapes Options.default .md _ hp⟩

end GridLayout
