import GridLayout.Proofs.Enumeration

/-!
# The shift to the first line

Areas that start before the first line are shifted onto the grid, all areas of a breakpoint by one
amount.  On each axis the amount is the least that is not below zero and leaves no area before the
first line; the axes do not know of each other.

What is shifted is on the grid, and what is on the grid is not shifted.  Hence a second shift finds
nothing to do, whatever dimensions it is given.

* `isLeast_shift`: the amount, on each axis.
* `issues_normalizeAt_of_least`: a shift is reported when there is one.
* `settled_normalizeAt`, `AreaMap.Settled.normalizeAt_eq`: what is shifted is on the grid, and what
  is on the grid is not shifted.
* `translateSlice`: the areas of one breakpoint of a layout, moved; moving them back
  (`translateSlice_neg`) and the other breakpoints (`sliceAt_translateSlice_of_ne`).
* `normalize_to_first_line`: the shift of a layout, with its reports.

Everything is in exact numbers.
-/

namespace GridLayout

/-! ## One breakpoint -/

section

variable {areas : AreaMap Rat}

/-- **The shift on each axis** is the least one that is not below zero and leaves no area before the
first line. -/
theorem isLeast_shift (h : AreaMap.placed areas ≠ []) (bp : Breakpoint) (d : GridDimensions Rat)
    (axis : Axis) :
    IsLeast {v | 0 ≤ v ∧ ∀ p ∈ AreaMap.placed areas, 1 ≤ p.area.start.along axis + v}
      ((normalizeAt bp areas d).shift.along axis) := by
  obtain ⟨p, rest, hplaced⟩ := List.exists_cons_of_ne_nil h
  have hleast := leastStart?_of_cons hplaced
  obtain ⟨⟨q, hq, hattained⟩, hlower⟩ := isLeast_leastStart? hleast axis
  rw [(normalizeAt_of_least hleast bp d).2 axis]
  generalize ((rest.map fun q => q.area.start).foldl Coordinate.min p.area.start).along axis =
    least at hattained hlower
  constructor
  · refine ⟨le_max_right _ _, fun r hr => ?_⟩
    have hstart : least ≤ r.area.start.along axis := hlower ⟨r, hr, rfl⟩
    have hshift : 1 - least ≤ Max.max (1 - least) 0 := le_max_left _ _
    linarith
  · rintro v ⟨hv, hall⟩
    have hstart : 1 ≤ least + v := hattained ▸ hall q hq
    exact max_le (by linarith) hv

/-- **A shift is reported** when there is one. -/
theorem issues_normalizeAt_of_least {least : Coordinate Rat} (h : leastStart? areas = some least)
    (bp : Breakpoint) (d : GridDimensions Rat) :
    (normalizeAt bp areas d).issues =
      if (normalizeAt bp areas d).shift = Coordinate.zero then []
      else [.gridShifted bp least (normalizeAt bp areas d).shift] := by
  unfold normalizeAt
  rw [h]
  dsimp only
  split
  · exact (if_pos rfl).symm
  · next hgrid =>
    refine (if_neg fun hzero => hgrid ?_).symm
    have hone : ∀ v : Rat, shiftToOne v = 0 → 1 ≤ v := by
      intro v hv
      rw [shiftToOne_rat, max_eq_right_iff] at hv
      exact sub_nonpos.mp hv
    rw [onGrid, Bool.and_eq_true]
    exact ⟨decide_eq_true (hone _ (congrArg Coordinate.x hzero)),
      decide_eq_true (hone _ (congrArg Coordinate.y hzero))⟩

/-- There are areas, and none of them starts before the first line. -/
structure AreaMap.Settled (areas : AreaMap Rat) : Prop where
  placed_ne_nil : AreaMap.placed areas ≠ []
  one_le_start : ∀ p ∈ AreaMap.placed areas, ∀ axis, 1 ≤ p.area.start.along axis

/-- **What is on the grid is not shifted.** -/
theorem AreaMap.Settled.normalizeAt_eq (h : AreaMap.Settled areas) (bp : Breakpoint)
    (d : GridDimensions Rat) : normalizeAt bp areas d = ⟨areas, d, Coordinate.zero, []⟩ :=
  normalizeAt_of_issues (issues_normalizeAt_eq_nil_iff.mpr
    ⟨h.placed_ne_nil, fun p hp => ⟨h.one_le_start p hp .x, h.one_le_start p hp .y⟩⟩)

theorem AreaMap.placed_translate (areas : AreaMap Rat) (delta : Coordinate Rat) :
    AreaMap.placed (areas.map fun s => s.map fun a => a.translate delta) =
      (AreaMap.placed areas).map fun p => ⟨p.sectionId, p.boxId, p.area.translate delta⟩ := by
  rw [placed, placed, IdMap.entries_map, List.flatMap_map, List.map_flatMap]
  refine List.flatMap_congr fun e _ => ?_
  rw [IdMap.entries_map, List.map_map, List.map_map]
  rfl

/-- **What is shifted is on the grid.** -/
theorem settled_normalizeAt (h : AreaMap.placed areas ≠ []) (bp : Breakpoint)
    (d : GridDimensions Rat) : AreaMap.Settled (normalizeAt bp areas d).areas := by
  rw [areas_normalizeAt]
  constructor
  · rw [AreaMap.placed_translate]
    exact fun hnil => h (List.map_eq_nil_iff.mp hnil)
  · rw [AreaMap.placed_translate]
    refine List.forall_mem_map.mpr fun p hp axis => ?_
    rw [GridArea.start_translate, Coordinate.along_add]
    exact (isLeast_shift h bp d axis).1.2 p hp

end

/-! ## One breakpoint of a layout -/

/-- A layout with the areas of one breakpoint moved. -/
def translateSlice (sections : IdMap (Bps (IdMap (GridArea Rat)))) (bp : Breakpoint)
    (delta : Coordinate Rat) : IdMap (Bps (IdMap (GridArea Rat))) :=
  sections.map fun s => s.set bp ((s.get bp).map fun a => a.translate delta)

section

variable (sections : IdMap (Bps (IdMap (GridArea Rat)))) (bp : Breakpoint)

theorem sliceAt_translateSlice (delta : Coordinate Rat) :
    sliceAt (translateSlice sections bp delta) bp =
      (sliceAt sections bp).map fun s => s.map fun a => a.translate delta := by
  rw [sliceAt, translateSlice, sliceAt, IdMap.map_map, IdMap.map_map]
  refine IdMap.map_congr fun s _ => ?_
  rw [Function.comp_apply, Function.comp_apply, Bps.get_set, if_pos rfl]

/-- **Moving one breakpoint leaves the others as they are.** -/
theorem sliceAt_translateSlice_of_ne (delta : Coordinate Rat) {bp' : Breakpoint} (h : bp' ≠ bp) :
    sliceAt (translateSlice sections bp delta) bp' = sliceAt sections bp' := by
  rw [sliceAt, translateSlice, sliceAt, IdMap.map_map]
  refine IdMap.map_congr fun s _ => ?_
  rw [Function.comp_apply, Bps.get_set, if_neg h]

theorem translateSlice_zero : translateSlice sections bp Coordinate.zero = sections := by
  refine IdMap.map_eq_self fun s _ => Bps.ext_get fun bp' => ?_
  rw [Bps.get_set]
  split
  · next h =>
    rw [h]
    exact IdMap.map_eq_self fun a _ => a.translate_zero
  · rfl

/-- **Moving back restores the layout.** -/
theorem translateSlice_neg (delta : Coordinate Rat) :
    translateSlice (translateSlice sections bp delta) bp (-delta) = sections := by
  have hback : ∀ a : GridArea Rat, (a.translate delta).translate (-delta) = a := by
    intro a
    ext <;> exact add_neg_cancel_right _ _
  rw [translateSlice, translateSlice, IdMap.map_map]
  refine IdMap.map_eq_self fun s _ => Bps.ext_get fun bp' => ?_
  rw [Function.comp_apply, Bps.get_set, Bps.get_set, if_pos rfl, Bps.get_set]
  split
  · next h =>
    rw [h, IdMap.map_map]
    exact IdMap.map_eq_self fun a _ => hback a
  · rfl

/-- **A layout is shifted by moving one breakpoint.** -/
theorem normalize_fst (d : GridDimensions Rat) :
    (normalize sections d bp).1 =
      translateSlice sections bp (normalizeAt bp (sliceAt sections bp) d).shift := by
  show putSlice sections bp (normalizeAt bp (sliceAt sections bp) d).areas = _
  rw [areas_normalizeAt, putSlice, translateSlice]
  refine IdMap.mapEntries_congr fun e he => ?_
  rw [IdMap.get?_map, sliceAt, IdMap.get?_map, IdMap.get?_of_mem he]
  rfl

theorem sliceAt_normalize (d : GridDimensions Rat) :
    sliceAt (normalize sections d bp).1 bp = (normalizeAt bp (sliceAt sections bp) d).areas := by
  rw [normalize_fst, sliceAt_translateSlice, areas_normalizeAt]

/-- **Shifting once is enough.** -/
theorem normalize_normalize (h : AreaMap.placed (sliceAt sections bp) ≠ [])
    (d d' : GridDimensions Rat) :
    normalize (normalize sections d bp).1 d' bp =
      ((normalize sections d bp).1,
        ⟨sliceAt (normalize sections d bp).1 bp, d', Coordinate.zero, []⟩) := by
  have hsettled := settled_normalizeAt h bp d
  rw [← sliceAt_normalize] at hsettled
  have hagain := hsettled.normalizeAt_eq bp d'
  refine Prod.ext ?_ hagain
  rw [normalize_fst, hagain, translateSlice_zero]

/-- Where there is nothing to shift, the grid is a single cell. -/
theorem normalize_of_placed_eq_nil (h : AreaMap.placed (sliceAt sections bp) = [])
    (d : GridDimensions Rat) :
    normalize sections d bp =
      (sections, ⟨sliceAt sections bp, ⟨1, 1⟩, Coordinate.zero, [.gridEmpty bp]⟩) := by
  have hempty : normalizeAt bp (sliceAt sections bp) d =
      ⟨sliceAt sections bp, ⟨1, 1⟩, Coordinate.zero, [.gridEmpty bp]⟩ := by
    rw [normalizeAt, leastStart?_of_nil h]
    rfl
  refine Prod.ext ?_ hempty
  rw [normalize_fst, hempty, translateSlice_zero]

end

/-! ## The shift of a layout -/

/-- **Areas are brought to the first line by the least shift.**

Where a breakpoint has an area, the shift is on each axis the least one that is not below zero and
brings every start line to one or above.  All four lines of every area of the breakpoint move by it,
so moving them back restores the layout; the dimensions grow by it, and no other breakpoint is
touched.  A shift is reported in one warning, and no shift in none.  Shifting once more, with any
dimensions, does and reports nothing.

Where a breakpoint has no area nothing moves, the grid is a single cell, and one warning says that
it is empty. -/
theorem normalize_to_first_line (sections : IdMap (Bps (IdMap (GridArea Rat))))
    (d : GridDimensions Rat) (bp : Breakpoint) :
    let placed := AreaMap.placed (sliceAt sections bp)
    let after := (normalize sections d bp).1
    let result := (normalize sections d bp).2
    let reports := result.issues.map Issue.diagnostic
    (placed ≠ [] →
      (∀ axis, IsLeast {v | 0 ≤ v ∧ ∀ p ∈ placed, 1 ≤ p.area.start.along axis + v}
        (result.shift.along axis)) ∧
      after = translateSlice sections bp result.shift ∧
      translateSlice after bp (-result.shift) = sections ∧
      result.dimensions = d.grow result.shift ∧
      (∀ bp', bp' ≠ bp → sliceAt after bp' = sliceAt sections bp') ∧
      (result.shift = Coordinate.zero → reports = []) ∧
      (result.shift ≠ Coordinate.zero → ∃ report, reports = [report] ∧
        report.severity = .warning ∧ report.origin = .absoluteLayout ∧
        report.code = .gridNormalizedToPositiveLines ∧ report.breakpoint? = some bp) ∧
      ∀ d', normalize after d' bp = (after, ⟨sliceAt after bp, d', Coordinate.zero, []⟩)) ∧
    (placed = [] → after = sections ∧ result.dimensions = ⟨1, 1⟩ ∧
      result.shift = Coordinate.zero ∧ ∃ report, reports = [report] ∧
        report.severity = .warning ∧ report.origin = .absoluteLayout ∧
        report.code = .emptyGrid ∧ report.breakpoint? = some bp) := by
  intro placed after result reports
  have hafter : after = translateSlice sections bp result.shift := normalize_fst sections bp d
  constructor
  · intro hplaced
    obtain ⟨p, rest, hcons⟩ := List.exists_cons_of_ne_nil hplaced
    have hleast := leastStart?_of_cons hcons
    have hissues := issues_normalizeAt_of_least hleast bp d
    refine ⟨isLeast_shift hplaced bp d, hafter, ?_, (normalizeAt_of_least hleast bp d).1,
      fun bp' hne => ?_, fun hzero => ?_, fun hne => ?_, normalize_normalize sections bp hplaced d⟩
    · rw [hafter, translateSlice_neg]
    · rw [hafter, sliceAt_translateSlice_of_ne sections bp _ hne]
    · exact congrArg (List.map Issue.diagnostic) (hissues.trans (if_pos hzero))
    · exact ⟨_, congrArg (List.map Issue.diagnostic) (hissues.trans (if_neg hne)), rfl, rfl, rfl,
        Issue.breakpoint?_diagnostic _⟩
  · intro hnil
    have hempty : (after, result) =
        (sections, ⟨sliceAt sections bp, ⟨1, 1⟩, Coordinate.zero, [.gridEmpty bp]⟩) :=
      normalize_of_placed_eq_nil sections bp hnil d
    obtain ⟨hsame, hresult⟩ := Prod.mk.inj hempty
    refine ⟨hsame, by rw [hresult], by rw [hresult], (Issue.gridEmpty bp).diagnostic, ?_, rfl, rfl,
      rfl, Issue.breakpoint?_diagnostic _⟩
    exact congrArg (fun n : Normalized Rat => n.issues.map Issue.diagnostic) hresult

/-- Two sections with a box each, and one without.  One of the boxes starts before the first column.
-/
def beforeFirstColumn : IdMap (Bps (IdMap (GridArea Rat))) := IdMap.ofList [
  ("left", Bps.splat (IdMap.ofList [("a", ⟨-3 / 2, 1, 2, 3⟩)])),
  ("none", Bps.splat IdMap.empty),
  ("right", Bps.splat (IdMap.ofList [("b", ⟨4, 5, 1, 7⟩)]))]

theorem beforeFirstColumn_to_first_line :
    AreaMap.placed (sliceAt beforeFirstColumn .sm) ≠ [] ∧
      let placed := AreaMap.placed (sliceAt beforeFirstColumn .sm)
      let after := (normalize beforeFirstColumn ⟨5, 7⟩ .sm).1
      IsLeast {v | 0 ≤ v ∧ ∀ p ∈ placed, 1 ≤ p.area.start.along .x + v} (5 / 2) ∧
      after = translateSlice beforeFirstColumn .sm ⟨5 / 2, 0⟩ ∧
      translateSlice after .sm (-⟨5 / 2, 0⟩) = beforeFirstColumn ∧
      sliceAt after .md = sliceAt beforeFirstColumn .md ∧
      normalize after ⟨15 / 2, 7⟩ .sm =
        (after, ⟨sliceAt after .sm, ⟨15 / 2, 7⟩, Coordinate.zero, []⟩) := by
  have hplaced : AreaMap.placed (sliceAt beforeFirstColumn .sm) ≠ [] := by decide +kernel
  refine ⟨hplaced, ?_⟩
  intro placed after
  have hshift : (normalize beforeFirstColumn ⟨5, 7⟩ .sm).2.shift = ⟨5 / 2, 0⟩ := by decide +kernel
  obtain ⟨hleast, hmoved, hback, -, hframe, -, -, hagain⟩ :=
    (normalize_to_first_line beforeFirstColumn ⟨5, 7⟩ .sm).1 hplaced
  rw [hshift] at hmoved hback
  have hcolumns := hleast .x
  rw [hshift] at hcolumns
  exact ⟨hcolumns, hmoved, hback, hframe .md (by decide), hagain ⟨15 / 2, 7⟩⟩

end GridLayout
