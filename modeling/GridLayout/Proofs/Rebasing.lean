import GridLayout.Proofs.Placement

/-!
# Where a section lies by itself makes no difference

A section is arranged around an origin of its own.  When the sections are put together, every
bounding box starts from the first line, and the boxes of a section are carried from where its
bounding box was to where it is.  So it does not matter where in its own coordinates a section lies:
it may be moved as a whole, at every breakpoint by another vector, and the grid stays the same.

`translateSections` moves the sections.  The bounding box of a section moves along
(`enclosing?_translate`), also when boxes reach backwards.  Two things cancel this.

* `boxes_placementAt_translate`, `failures_placementAt_translate`: the operations of the layout
  start from bounding boxes whose origin is forgotten.
* `carry_translate`: boxes are carried from where they were, relative to their bounding box.

`assemble_translateSections` is what follows for the plan and for the reports.
-/

namespace GridLayout

/-! ## Unions -/

namespace GridBox

theorem along_farCorner_translate (b : GridBox Rat) (d : Coordinate Rat) (axis : Axis) :
    (b.translate d).farCorner.along axis = b.farCorner.along axis + d.along axis := by
  rw [along_farCorner, along_farCorner, origin_translate, diagonal_translate, Coordinate.along_add]
  exact add_right_comm _ _ _

/-- **A union moves along with its boxes.** -/
theorem union_translate (a b : GridBox Rat) (d : Coordinate Rat) :
    (a.translate d).union (b.translate d) = (a.union b).translate d := by
  refine ext_along (fun axis => ?_) fun axis => ?_
  · rw [along_origin_union, origin_translate, origin_translate, origin_translate,
      Coordinate.along_add, Coordinate.along_add, Coordinate.along_add, along_origin_union]
    exact min_add_add_right _ _ _
  · rw [along_diagonal_union, along_farCorner_translate, along_farCorner_translate,
      origin_translate, origin_translate, Coordinate.along_add, Coordinate.along_add,
      max_add_add_right, min_add_add_right, add_sub_add_right_eq_sub, diagonal_translate,
      along_diagonal_union]

end GridBox

/-! ## Bounding boxes -/

/-- **The smallest box around some boxes moves along with them.** -/
theorem enclosing?_translate (boxes : BoxMap Rat) (d : Coordinate Rat) :
    enclosing? (boxes.map fun b => b.translate d) =
      (enclosing? boxes).map fun e => e.translate d := by
  rw [enclosing?, enclosing?, IdMap.values_map]
  cases boxes.values with
  | nil => rfl
  | cons b rest =>
    show some ((rest.map fun b => b.translate d).foldl GridBox.union (b.translate d)) =
      some ((rest.foldl GridBox.union b).translate d)
    rw [List.foldl_map]
    exact congrArg some (List.foldl_hom (fun e => GridBox.translate e d) fun e c =>
      e.union_translate c d)

/-- Moves every section at every breakpoint by a vector of its own. -/
def translateSections (vector : String → Breakpoint → Coordinate Rat)
    (sections : IdMap (LocalBoxes Rat)) : IdMap (LocalBoxes Rat) :=
  sections.mapEntries fun id boxes =>
    boxes.map fun bp b => b.map fun e => e.translate (vector id bp)

variable (vector : String → Breakpoint → Coordinate Rat) (sections : IdMap (LocalBoxes Rat))
  (schedule : Option (Schedule Rat)) (bp : Breakpoint)

theorem slice_translateSections :
    ((translateSections vector sections).map fun s => s.get bp) =
      (sections.map fun s => s.get bp).mapEntries fun id boxes =>
        boxes.map fun b => b.translate (vector id bp) := by
  rw [translateSections, IdMap.map_mapEntries, IdMap.mapEntries_map]
  exact IdMap.mapEntries_congr fun e _ => Bps.get_map _ e.2 bp

variable {vector sections schedule bp}

/-- The bounding box of a section that is not empty moves along with it. -/
theorem LocalBoxes.bounds_translate {sectionId : String} {s : LocalBoxes Rat}
    (h : (s.get bp).values ≠ []) :
    (LocalBoxes.bounds (s.map fun bp b => b.map fun e => e.translate (vector sectionId bp))).get
        bp =
      ((LocalBoxes.bounds s).get bp).translate (vector sectionId bp) := by
  obtain ⟨b, hb⟩ := List.exists_mem_of_ne_nil _ h
  obtain ⟨e, he, -⟩ := exists_enclosing? hb
  rw [bounds, Bps.get_map, Bps.get_map, enclosing?_translate, bounds, Bps.get_map, he]
  rfl

/-! ## Bounding boxes among each other -/

/-- The operations of the layout start from bounding boxes that have all been put on the first
line. -/
theorem start_translateSections :
    (((sectionBounds (translateSections vector sections)).1.map fun e => e.get bp).map fun b =>
        { b with origin := gridOrigin }) =
      ((sectionBounds sections).1.map fun e => e.get bp).map fun b =>
        { b with origin := gridOrigin } := by
  rw [slice_sectionBounds, slice_sectionBounds, slice_translateSections, IdMap.map_mapEntries,
    IdMap.map_mapEntries, IdMap.map_map]
  refine IdMap.mapEntries_congr fun e _ => ?_
  rw [enclosing?_translate, Function.comp_apply]
  cases enclosing? e.2 <;> rfl

/-- **The bounding boxes are arranged alike**, because where they come from is forgotten. -/
theorem boxes_placementAt_translate :
    (placementAt (translateSections vector sections) schedule bp).boxes =
      (placementAt sections schedule bp).boxes := by
  rw [placementAt, boxes_positionSections, start_translateSections]
  rfl

theorem failures_placementAt_translate :
    (placementAt (translateSections vector sections) schedule bp).failures =
      (placementAt sections schedule bp).failures := by
  have hfailures : ∀ (bounds : BoxMap Rat) (ops : List (Operation Rat)),
      (positionSections bounds ops).failures =
        (Operation.runAll ops (bounds.map fun b => { b with origin := gridOrigin })).2 :=
    fun _ _ => rfl
  rw [placementAt, hfailures, start_translateSections]
  rfl

/-- **Every box is carried to where it was carried before**: it has moved as much as its bounding
box. -/
theorem carry_translate {sectionId : String} {s : LocalBoxes Rat}
    (hs : sections.get? sectionId = some s) {b : GridBox Rat} (hb : b ∈ (s.get bp).values) :
    (placementAt (translateSections vector sections) schedule bp).carry sectionId
        (b.translate (vector sectionId bp)) =
      (placementAt sections schedule bp).carry sectionId b := by
  have hs' : (translateSections vector sections).get? sectionId =
      some (s.map fun bp b => b.map fun e => e.translate (vector sectionId bp)) := by
    rw [translateSections, IdMap.get?_mapEntries, hs]
    rfl
  obtain ⟨placed, hplaced, -, hcarry⟩ := exists_placement hs schedule bp
  obtain ⟨placed', hplaced', -, hcarry'⟩ := exists_placement hs' schedule bp
  rw [boxes_placementAt_translate] at hplaced'
  obtain rfl : placed = placed' := Option.some.inj (hplaced.symm.trans hplaced')
  rw [hcarry, hcarry', LocalBoxes.bounds_translate (List.ne_nil_of_mem hb)]
  refine GridBox.ext_along (fun axis => ?_) fun _ => rfl
  simp only [GridBox.origin_translate, Coordinate.along_add, Coordinate.along_sub]
  -- the vector cancels: both the box and its bounding box have moved by it
  rw [add_sub_add_right_eq_sub]

/-! ## Grids -/

/-- Before the shift to the first line every area is where it was. -/
theorem unshiftedAt_translate :
    unshiftedAt (translateSections vector sections) schedule bp =
      unshiftedAt sections schedule bp := by
  refine IdMap.mapEntries_eq_of_keys_eq ?_ fun sectionId boxes boxes' hboxes hboxes' => ?_
  · rw [slice_translateSections, IdMap.keys_mapEntries]
  · rw [slice_translateSections, IdMap.get?_mapEntries, hboxes', Option.map_some] at hboxes
    rw [IdMap.get?_map] at hboxes'
    obtain ⟨s, hs, rfl⟩ := Option.map_eq_some_iff.mp hboxes'
    rw [← Option.some.inj hboxes, IdMap.map_map]
    refine IdMap.map_congr fun b hb => ?_
    rw [Function.comp_apply, carry_translate hs hb]

theorem gridAt_translate :
    gridAt (translateSections vector sections) (sectionBounds (translateSections vector sections)).1
        schedule bp =
      gridAt sections (sectionBounds sections).1 schedule bp := by
  have hdimensions : (placementAt (translateSections vector sections) schedule bp).dimensions =
      (placementAt sections schedule bp).dimensions := by
    rw [Positioned.dimensions, boxes_placementAt_translate]
    rfl
  rw [gridAt_eq, gridAt_eq, unshiftedAt_translate, hdimensions, failures_placementAt_translate]

/-- A plan and its reports are made of the ids of the sections and of the grids. -/
theorem assemble_congr {sections' : IdMap (LocalBoxes Rat)}
    {bounds bounds' : IdMap (Bps (GridBox Rat))} {schedule' : Option (Schedule Rat)}
    (hkeys : sections.keys = sections'.keys)
    (hgrids : ∀ bp, gridAt sections bounds schedule bp = gridAt sections' bounds' schedule' bp) :
    assemble sections bounds schedule = assemble sections' bounds' schedule' := by
  have hall : Bps.ofFn (gridAt sections bounds schedule) =
      Bps.ofFn (gridAt sections' bounds' schedule') :=
    congrArg Bps.ofFn (funext hgrids)
  have hareas : ∀ grids : Bps (Normalized Rat),
      (sections.mapEntries fun id _ =>
        grids.map fun _ g => (g.areas.get? id).getD IdMap.empty) =
      sections'.mapEntries fun id _ => grids.map fun _ g => (g.areas.get? id).getD IdMap.empty :=
    fun _ => IdMap.mapEntries_eq_of_keys_eq hkeys fun _ _ _ _ _ => rfl
  unfold gridAt at hall
  rw [assemble, hall, hareas]
  rfl

/-- **Where a section lies by itself makes no difference.**  When every section is moved as a whole,
at every breakpoint by a vector of its own, the same plan comes out with the same reports, and the
same sections are reported as empty. -/
theorem assemble_translateSections (vector : String → Breakpoint → Coordinate Rat)
    (sections : IdMap (LocalBoxes Rat)) (schedule : Option (Schedule Rat)) :
    assemble (translateSections vector sections)
        (sectionBounds (translateSections vector sections)).1 schedule =
      assemble sections (sectionBounds sections).1 schedule ∧
    (sectionBounds (translateSections vector sections)).2 = (sectionBounds sections).2 := by
  constructor
  · exact assemble_congr (IdMap.keys_mapEntries _ _) fun _ => gridAt_translate
  · rw [sectionBounds, sectionBounds, translateSections, IdMap.entries_mapEntries,
      List.flatMap_map]
    refine List.flatMap_congr fun e _ => ?_
    rw [LocalBoxes.emptyIssues, LocalBoxes.emptyIssues, Bps.entries, Bps.entries,
      List.flatMap_map, List.flatMap_map]
    refine List.flatMap_congr fun bp _ => ?_
    have hempty : ((e.2.get bp).map fun b => b.translate (vector e.1 bp)).isEmpty =
        (e.2.get bp).isEmpty := List.isEmpty_map
    rw [Bps.get_map, hempty]

end GridLayout
