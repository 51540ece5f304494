import GridLayout.Proofs.GridLines

/-!
# How large a grid is published

The dimensions of a grid are meant to be the farthest that an arranged bounding box reaches on each
axis, moved along with everything else by the shift to the first line.  They are taken by a fold
that starts from the origin, so the origin counts as if a bounding box ended there.

That is harmless as long as some bounding box ends at the origin or beyond it on the axis.  Where
all of them end before it, the grid is published larger than the farthest box reaches, by as much as
is missing.  `dimensions_eq_far_iff` says exactly this.
-/

namespace GridLayout

/-- The bounding boxes of all sections at a breakpoint, as the operations of the layout arrange
them. -/
def arrangedBounds (sections : IdMap (LocalBoxes Rat)) (schedule : Option (Schedule Rat))
    (bp : Breakpoint) : BoxMap Rat :=
  (positionSections ((sectionBounds sections).1.map fun e => e.get bp)
    (Schedule.at? schedule bp)).boxes

theorem keys_arrangedBounds (sections : IdMap (LocalBoxes Rat)) (schedule : Option (Schedule Rat))
    (bp : Breakpoint) : (arrangedBounds sections schedule bp).keys = sections.keys := by
  rw [arrangedBounds, boxes_positionSections, Operation.keys_runAll, IdMap.keys_map,
    IdMap.keys_map]
  exact IdMap.keys_map _ _

/-- **Some bounding box reaches farthest**, where there is a section. -/
theorem exists_isGreatest_far {boxes : BoxMap Rat} (h : boxes.keys ≠ []) (axis : Axis) :
    ∃ far, IsGreatest {v | ∃ e ∈ boxes.values, v = e.farCorner.along axis} far := by
  cases hv : boxes.values with
  | nil =>
    refine absurd ?_ h
    rw [IdMap.keys, List.map_eq_nil_iff]
    exact List.map_eq_nil_iff.mp hv
  | cons c rest =>
    refine ⟨rest.foldl (fun v e => Max.max v (e.farCorner.along axis)) (c.farCorner.along axis), ?_⟩
    simp only [List.mem_cons, exists_eq_or_imp]
    exact isGreatest_foldl (f := fun v : Rat => v) (fun _ _ => rfl) rest (c.farCorner.along axis)

/-- **What the dimensions are**: the farthest reach, and never before the origin. -/
theorem Positioned.along_dimensions {p : Positioned Rat} {axis : Axis} {far : Rat}
    (hfar : IsGreatest {v | ∃ e ∈ p.boxes.values, v = e.farCorner.along axis} far) :
    p.dimensions.corner.along axis = Max.max far 0 := by
  refine (p.isGreatest_dimensions axis).unique ⟨?_, ?_⟩
  · rcases max_choice far 0 with h | h
    · rw [h]
      exact Or.inr hfar.1
    · exact Or.inl h
  · rintro v (rfl | hv)
    · exact le_max_right _ _
    · exact (hfar.2 hv).trans (le_max_left _ _)

/-- Where there is a box, the dimensions of a grid are those of the arranged bounding boxes, grown
by the shift. -/
theorem dimensions_gridAt {sections : IdMap (LocalBoxes Rat)} {bp : Breakpoint}
    (hbox : ∃ boxes ∈ sections.values, (boxes.get bp).values ≠ [])
    (schedule : Option (Schedule Rat)) :
    (gridAt sections (sectionBounds sections).1 schedule bp).dimensions =
      (positionSections ((sectionBounds sections).1.map fun e => e.get bp)
        (Schedule.at? schedule bp)).dimensions.grow
          (gridAt sections (sectionBounds sections).1 schedule bp).shift := by
  obtain ⟨boxes, hboxes, hne⟩ := hbox
  obtain ⟨b, hb⟩ := List.exists_mem_of_ne_nil _ hne
  obtain ⟨sectionId, hid⟩ := IdMap.mem_values.mp hboxes
  have hs : (unshiftedAt sections schedule bp).get? sectionId =
      some ((boxes.get bp).map fun b =>
        GridArea.ofBox ((placementAt sections schedule bp).carry sectionId b)) := by
    rw [get?_unshiftedAt, hid, Option.map_some]
  have ha : GridArea.ofBox ((placementAt sections schedule bp).carry sectionId b) ∈
      ((boxes.get bp).map fun b =>
        GridArea.ofBox ((placementAt sections schedule bp).carry sectionId b)).values := by
    rw [IdMap.values_map]
    exact List.mem_map_of_mem hb
  obtain ⟨least, hleast, -⟩ := exists_leastStart? (IdMap.mem_values.mpr ⟨sectionId, hs⟩) ha
  rw [gridAt_eq]
  exact (normalizeAt_of_least hleast bp _).1

/-- **When the dimensions are the farthest reach.**  Where there is a box, some arranged bounding
box reaches farthest on an axis.  The published dimension is that reach, or the origin where the
reach ends before it, plus the shift of the axis; so it is the reach plus the shift exactly when the
reach does not end before the origin. -/
theorem dimensions_eq_far_iff (sections : IdMap (LocalBoxes Rat)) (schedule : Option (Schedule Rat))
    (bp : Breakpoint) (hbox : ∃ boxes ∈ sections.values, (boxes.get bp).values ≠ [])
    (axis : Axis) :
    let plan := (assemble sections (sectionBounds sections).1 schedule).1
    ∃ far, IsGreatest
        {v | ∃ e ∈ (arrangedBounds sections schedule bp).values, v = e.farCorner.along axis} far ∧
      (plan.dimensions.get bp).corner.along axis =
        Max.max far 0 + (plan.normalization.get bp).along axis ∧
      ((plan.dimensions.get bp).corner.along axis = far + (plan.normalization.get bp).along axis ↔
        0 ≤ far) := by
  intro plan
  have hkeys : (arrangedBounds sections schedule bp).keys ≠ [] := by
    obtain ⟨boxes, hboxes, -⟩ := hbox
    obtain ⟨sectionId, hid⟩ := IdMap.mem_values.mp hboxes
    rw [keys_arrangedBounds]
    exact List.ne_nil_of_mem (List.mem_map_of_mem (IdMap.get?_eq_some_iff.mp hid))
  obtain ⟨far, hfar⟩ := exists_isGreatest_far hkeys axis
  have hdim : (plan.dimensions.get bp).corner.along axis =
      Max.max far 0 + (plan.normalization.get bp).along axis := by
    rw [dimensions_assemble, normalization_assemble, dimensions_gridAt hbox,
      GridDimensions.corner_grow, Coordinate.along_add, Positioned.along_dimensions hfar]
  refine ⟨far, hfar, hdim, ?_⟩
  rw [hdim, add_left_inj]
  exact max_eq_left_iff

/-- One section with one box of one cell, at every breakpoint. -/
def oneCell : IdMap (LocalBoxes Rat) :=
  IdMap.ofList [("s", Bps.splat (IdMap.ofList [("a", GridBox.atOrigin ⟨1, 1⟩)]))]

/-- Puts the section before the origin on both axes. -/
def beforeOrigin : Schedule Rat :=
  .uniform [.moveTo (.valid ⟨"s", "bottomLeft"⟩) (.point ⟨-10, -10⟩) none]

theorem dimensions_before_origin :
    (∃ boxes ∈ oneCell.values, (boxes.get .md).values ≠ []) ∧
      ∃ far, IsGreatest {v | ∃ e ∈ (arrangedBounds oneCell (some beforeOrigin) .md).values,
          v = e.farCorner.along .x} far ∧
        ((assemble oneCell (sectionBounds oneCell).1 (some beforeOrigin)).1.dimensions.get
            .md).columns =
          Max.max far 0 + ((assemble oneCell (sectionBounds oneCell).1
            (some beforeOrigin)).1.normalization.get .md).x ∧
        (((assemble oneCell (sectionBounds oneCell).1 (some beforeOrigin)).1.dimensions.get
            .md).columns =
          far + ((assemble oneCell (sectionBounds oneCell).1
            (some beforeOrigin)).1.normalization.get .md).x ↔ 0 ≤ far) := by
  have hbox : ∃ boxes ∈ oneCell.values, (boxes.get .md).values ≠ [] :=
    ⟨_, List.mem_singleton_self _, List.cons_ne_nil _ _⟩
  exact ⟨hbox, dimensions_eq_far_iff oneCell (some beforeOrigin) .md hbox .x⟩

/-- **The dimensions are not always the farthest reach plus the shift.**  A box of one cell that is
put at `(-10, -10)` reaches to `-9`, and the shift is `11`; the grid is published with eleven
columns in place of two. -/
theorem dimensions_ne_far :
    ¬ ∀ (sections : IdMap (LocalBoxes Rat)) (schedule : Option (Schedule Rat)) (bp : Breakpoint),
      (∃ boxes ∈ sections.values, (boxes.get bp).values ≠ []) → ∀ (axis : Axis) (far : Rat),
      IsGreatest
        {v | ∃ e ∈ (arrangedBounds sections schedule bp).values, v = e.farCorner.along axis} far →
      ((assemble sections (sectionBounds sections).1 schedule).1.dimensions.get bp).corner.along
          axis =
        far + ((assemble sections (sectionBounds sections).1 schedule).1.normalization.get
          bp).along axis := by
  intro h
  have hvalues : (arrangedBounds oneCell (some beforeOrigin) .md).values =
      [.new ⟨-10, -10⟩ ⟨1, 1⟩] := by decide +kernel
  have hfar : IsGreatest {v | ∃ e ∈ (arrangedBounds oneCell (some beforeOrigin) .md).values,
      v = e.farCorner.along .x} (-9) := by
    rw [hvalues]
    refine ⟨⟨_, List.mem_singleton_self _, by decide +kernel⟩, ?_⟩
    rintro v ⟨e, he, rfl⟩
    rw [List.mem_singleton.mp he]
    decide +kernel
  have hne : ¬ ((assemble oneCell (sectionBounds oneCell).1 (some beforeOrigin)).1.dimensions.get
      .md).corner.along .x = -9 + ((assemble oneCell (sectionBounds oneCell).1
        (some beforeOrigin)).1.normalization.get .md).along .x := by decide +kernel
  exact hne (h oneCell (some beforeOrigin) .md
    ⟨_, List.mem_singleton_self _, List.cons_ne_nil _ _⟩ .x (-9) hfar)

end GridLayout
