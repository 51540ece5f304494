import GridLayout.Proofs.Ordering
import GridLayout.Proofs.Reported

/-!
# Nothing is lost, added or resized

A plan lists the sections of the layout in their order, and at every breakpoint the boxes of a
section that have a dimension, in the order of their enumeration.  Operations change none of this,
because they change no id and no extent; the other boxes are reported, once each.

* `IdMap.entries_ofList`: a list without repeated ids is the map that is made from it.
* `SectionSpec.keys_outcomeAt`: the boxes of a section at a breakpoint are the boxes of the section
  that have a dimension.
* `Input.withCode_noBoxesProcessed`: the boxes without one are reported, once each, in their order.
* `SectionSpec.exists_dimension_of_get?`: in exact numbers a box is arranged with the size that its
  dimension leads to.
* `Input.solution_inventory`: all of this, for what a solve publishes.
-/

namespace GridLayout

/-! ## Maps of lists without repeated ids -/

namespace IdMap

variable {β : Type}

theorem entries_insertAll {m : IdMap β} {l : List (String × β)}
    (h : ((m.entries ++ l).map Prod.fst).Nodup) : (m.insertAll l).entries = m.entries ++ l := by
  induction l generalizing m with
  | nil => exact (List.append_nil _).symm
  | cons e rest ih =>
    have hnew : e.1 ∉ m.entries.map Prod.fst := by
      rw [List.map_append, List.nodup_append] at h
      intro hmem
      exact h.2.2 e.1 hmem e.1 List.mem_cons_self rfl
    have hinsert : (m.insert e.1 e.2).entries = m.entries ++ [e] :=
      entries_insert_of_not_mem hnew e.2
    have hrest : (((m.insert e.1 e.2).entries ++ rest).map Prod.fst).Nodup := by
      rw [hinsert, List.append_assoc]
      exact h
    have hall := ih hrest
    rw [hinsert, List.append_assoc] at hall
    exact hall

/-- **A list without repeated ids is the map that is made from it.** -/
theorem entries_ofList {l : List (String × β)} (h : (l.map Prod.fst).Nodup) :
    (ofList l).entries = l :=
  entries_insertAll (m := empty) h

end IdMap

/-! ## The boxes of a section -/

section

variable {α : Type} [Scalar α]

namespace SectionSpec

/-- The boxes of a section that have a dimension, in the order of their enumeration. -/
def sizedIds (s : SectionSpec α) : List String :=
  s.memberIds.filter fun boxId => (s.dimension? boxId).isSome

/-- The boxes of a section that have no dimension, in the order of their enumeration. -/
def unsizedIds (s : SectionSpec α) : List String :=
  s.memberIds.filter fun boxId => (s.dimension? boxId).isNone

variable {s : SectionSpec α}

omit [Scalar α] in
/-- A box is among those with a dimension when it is declared with one. -/
theorem mem_sizedIds {boxId : String} :
    boxId ∈ s.sizedIds ↔ ∃ b d, s.boxes.get? boxId = some b ∧ b.dimension = some d := by
  rw [sizedIds, List.mem_filter, mem_memberIds, Option.isSome_iff_exists]
  constructor
  · rintro ⟨-, d, hd⟩
    obtain ⟨b, hb, hdim⟩ := Option.bind_eq_some_iff.mp hd
    exact ⟨b, d, hb, hdim⟩
  · rintro ⟨b, d, hb, hdim⟩
    exact ⟨IdMap.mem_keys_of_get? hb, d, Option.bind_eq_some_iff.mpr ⟨b, hb, hdim⟩⟩

omit [Scalar α] in
/-- A box is among those without a dimension when it is declared without one. -/
theorem mem_unsizedIds {boxId : String} :
    boxId ∈ s.unsizedIds ↔ ∃ b, s.boxes.get? boxId = some b ∧ b.dimension = none := by
  rw [unsizedIds, List.mem_filter, mem_memberIds, Option.isNone_iff_eq_none, dimension?]
  constructor
  · rintro ⟨hkey, hnone⟩
    obtain ⟨b, hb⟩ := IdMap.mem_keys.mp hkey
    rw [hb, Option.bind_some] at hnone
    exact ⟨b, hb, hnone⟩
  · rintro ⟨b, hb, hnone⟩
    rw [hb, Option.bind_some]
    exact ⟨IdMap.mem_keys_of_get? hb, hnone⟩

omit [Scalar α] in
theorem nodup_sizedIds (s : SectionSpec α) : s.sizedIds.Nodup := s.nodup_memberIds.filter _

omit [Scalar α] in
theorem nodup_unsizedIds (s : SectionSpec α) : s.unsizedIds.Nodup := s.nodup_memberIds.filter _

theorem map_fst_sizedMembers (sectionId : String) (catalog : Catalog α) (options : Options α) :
    (s.sizedMembers sectionId catalog options).map Prod.fst = s.sizedIds := by
  rw [sizedMembers, sizedIds, List.map_filterMap, ← List.filterMap_eq_filter]
  refine List.filterMap_congr fun boxId _ => ?_
  cases h : s.dimension? boxId <;> simp [h, Option.guard]

theorem entries_startingBoxes (sectionId : String) (catalog : Catalog α) (options : Options α)
    (bp : Breakpoint) :
    (startingBoxes (s.sizedMembers sectionId catalog options) bp).entries =
      (s.sizedMembers sectionId catalog options).map fun m =>
        (m.1, GridBox.atOrigin (m.2.get bp)) := by
  refine IdMap.entries_ofList ?_
  rw [List.map_map]
  exact (map_fst_sizedMembers sectionId catalog options).symm ▸ s.nodup_sizedIds

/-- **The boxes of a section at a breakpoint** are those that have a dimension, in the order of
their enumeration, whatever operations have been carried out on them. -/
theorem keys_outcomeAt (sectionId : String) (catalog : Catalog α) (options : Options α)
    (bp : Breakpoint) : (s.outcomeAt sectionId catalog options bp).1.keys = s.sizedIds := by
  rw [outcomeAt, Operation.keys_runAll, IdMap.keys, entries_startingBoxes, List.map_map]
  exact map_fst_sizedMembers sectionId catalog options

end SectionSpec

/-- The boxes of all sections at a breakpoint, by section. -/
theorem LayoutSpec.keys_arrangeSections (layout : LayoutSpec α) (catalog : Catalog α)
    (options : Options α) (bp : Breakpoint) :
    ((layout.arrangeSections catalog options).1.map fun s => (s.get bp).keys) =
      layout.sections.map SectionSpec.sizedIds := by
  rw [arrangeSections_fst, IdMap.map_mapEntries]
  refine IdMap.mapEntries_congr fun e _ => ?_
  rw [SectionSpec.get_arrange, SectionSpec.keys_outcomeAt]

/-! ## Boxes that are left out -/

/-- The boxes of a layout that have no dimension, section by section. -/
def LayoutSpec.unsizedPlaces (layout : LayoutSpec α) : List BoxPlace :=
  layout.sections.entries.flatMap fun e => e.2.unsizedIds.map fun boxId => ⟨e.1, boxId⟩

omit [Scalar α] in
theorem LayoutSpec.mem_unsizedPlaces {layout : LayoutSpec α} {place : BoxPlace} :
    place ∈ layout.unsizedPlaces ↔
      ∃ s b, layout.sections.get? place.sectionId = some s ∧
        s.boxes.get? place.boxId = some b ∧ b.dimension = none := by
  rw [unsizedPlaces, List.mem_flatMap]
  constructor
  · rintro ⟨e, he, hplace⟩
    obtain ⟨boxId, hid, rfl⟩ := List.mem_map.mp hplace
    obtain ⟨b, hb, hnone⟩ := SectionSpec.mem_unsizedIds.mp hid
    exact ⟨e.2, b, IdMap.get?_of_mem he, hb, hnone⟩
  · rintro ⟨s, b, hs, hb, hnone⟩
    exact ⟨(place.sectionId, s), IdMap.get?_eq_some_iff.mp hs,
      List.mem_map.mpr ⟨place.boxId, SectionSpec.mem_unsizedIds.mpr ⟨b, hb, hnone⟩, rfl⟩⟩

omit [Scalar α] in
theorem LayoutSpec.nodup_unsizedPlaces (layout : LayoutSpec α) : layout.unsizedPlaces.Nodup := by
  rw [unsizedPlaces, List.nodup_flatMap]
  constructor
  · intro e _
    refine List.Nodup.of_map BoxPlace.boxId ?_
    rw [List.map_map]
    exact (List.map_id _).symm ▸ e.2.nodup_unsizedIds
  · have hids : layout.sections.entries.Pairwise fun s t => s.1 ≠ t.1 :=
      List.pairwise_map.mp layout.sections.nodup
    refine hids.imp fun hne => ?_
    intro place hp hq
    obtain ⟨boxId, -, rfl⟩ := List.mem_map.mp hp
    obtain ⟨boxId', -, heq⟩ := List.mem_map.mp hq
    exact hne (congrArg BoxPlace.sectionId heq).symm

/-! ## Reports of boxes that are left out -/

omit [Scalar α] in
/-- One code belongs to boxes without a dimension, and to one stage. -/
theorem Issue.code_eq_noBoxesProcessed_iff {issue : Issue α} :
    issue.code = .noBoxesProcessed ↔ issue.origin = .localLayout := by
  cases issue with
  | operation scope verb failure => cases failure <;> simp [code, origin, Failure.code]
  | _ => simp [code, origin]

omit [Scalar α] in
theorem Issue.filter_code_eq_nil {issues : List (Issue α)}
    (h : ∀ issue ∈ issues, issue.origin ≠ .localLayout) :
    (issues.filter fun issue => issue.code == .noBoxesProcessed) = [] := by
  refine List.filter_eq_nil_iff.mpr fun issue hissue hcode => h issue hissue ?_
  exact code_eq_noBoxesProcessed_iff.mp (eq_of_beq hcode)

namespace SectionSpec

variable (s : SectionSpec α) (sectionId : String) (catalog : Catalog α) (options : Options α)

/-- What is said about a box with a dimension is said about its shape. -/
theorem filter_memberIssues :
    ((s.memberIssues sectionId catalog options).filter fun issue =>
        issue.code == .noBoxesProcessed) =
      s.unsizedIds.map fun boxId => .noDimension ⟨sectionId, boxId⟩ := by
  rw [memberIssues, unsizedIds]
  induction s.memberIds with
  | nil => rfl
  | cons boxId rest ih =>
    rw [List.flatMap_cons, List.filter_append, ih, List.filter_cons]
    cases hdim : s.dimension? boxId with
    | none => rfl
    | some d =>
      have hnone : ((d.issues catalog options ⟨sectionId, boxId⟩).filter fun issue =>
          issue.code == .noBoxesProcessed) = [] := by
        refine Issue.filter_code_eq_nil fun issue hissue => ?_
        obtain ⟨bp, -, hbp⟩ := List.mem_flatMap.mp hissue
        split at hbp
        · exact absurd hbp List.not_mem_nil
        · next hfind =>
          rw [List.mem_singleton.mp hbp, Dimension.origin_find hfind]
          decide
      exact congrArg (· ++ _) hnone

theorem filter_code_arrange :
    ((s.arrange sectionId catalog options).2.filter fun issue =>
        issue.code == .noBoxesProcessed) =
      s.unsizedIds.map fun boxId => .noDimension ⟨sectionId, boxId⟩ := by
  rw [arrange_eq, List.filter_append, List.filter_append, filter_memberIssues]
  have horder : ((s.orderIssues sectionId : List (Issue α)).filter fun issue =>
      issue.code == .noBoxesProcessed) = [] := by
    refine Issue.filter_code_eq_nil fun issue hissue => ?_
    rw [origin_orderIssues hissue]
    decide
  rw [horder, List.nil_append, Issue.filter_code_eq_nil, List.append_nil]
  intro issue hissue
  obtain ⟨o, -, ho⟩ := List.mem_flatMap.mp hissue
  obtain ⟨f, -, rfl⟩ := List.mem_map.mp ho
  exact nofun

end SectionSpec

theorem LayoutSpec.filter_sectionIssues (layout : LayoutSpec α) (catalog : Catalog α)
    (options : Options α) :
    ((layout.arrangeSections catalog options).2.filter fun issue =>
        issue.code == .noBoxesProcessed) = layout.unsizedPlaces.map Issue.noDimension := by
  have hoptions : (options.issues.filter fun issue => issue.code == .noBoxesProcessed) = [] := by
    refine Issue.filter_code_eq_nil fun issue hissue => ?_
    rw [(Input.mem_optionsIssues.mp hissue).2]
    exact nofun
  rw [arrangeSections, List.filter_append, hoptions, List.nil_append, IdMap.values,
    List.filter_flatMap, IdMap.entries_mapEntries, List.flatMap_map, List.flatMap_map,
    unsizedPlaces, List.map_flatMap]
  refine List.flatMap_congr fun e _ => ?_
  rw [List.map_map]
  exact SectionSpec.filter_code_arrange e.2 e.1 catalog options

namespace Input

variable (i : Input α)

/-- **Boxes without a dimension are reported**, once each, in the order of their enumeration. -/
theorem withCode_noBoxesProcessed :
    Diagnostic.withCode i.solution.diagnostics .noBoxesProcessed =
      i.layout.unsizedPlaces.map fun place => (Issue.noDimension place).diagnostic := by
  have hbounds : ((sectionBounds i.arranged).2.filter fun issue =>
      issue.code == .noBoxesProcessed) = [] := by
    refine Issue.filter_code_eq_nil fun issue hissue => ?_
    obtain ⟨sectionId, boxes, bp, -, -, rfl⟩ := mem_boundsIssues.mp hissue
    exact nofun
  have hplan : ((assemble i.arranged (sectionBounds i.arranged).1 i.layout.schedule).2.filter
      fun issue => issue.code == .noBoxesProcessed) = [] := by
    refine Issue.filter_code_eq_nil fun issue hissue => ?_
    obtain ⟨bp, hgrid⟩ := mem_planIssues.mp hissue
    rw [gridAt_eq, List.mem_append] at hgrid
    rcases hgrid with hop | hshift
    · obtain ⟨f, -, rfl⟩ := List.mem_map.mp hop
      exact nofun
    · rw [origin_normalizeAt hshift]
      decide
  have haudit : ((overlapIssues i.solution.plan i.options.overlapBreakpoints
      i.options.overlapPolicy).filter fun issue => issue.code == .noBoxesProcessed) = [] := by
    refine Issue.filter_code_eq_nil fun issue hissue => ?_
    obtain ⟨severity, bp, p, -, -, -, rfl⟩ := mem_overlapIssues.mp hissue
    exact nofun
  rw [arranged] at hbounds hplan
  rw [diagnostics_solution, Issue.withCode_map_diagnostic, issues_stages, List.filter_append,
    List.filter_append, List.filter_append, LayoutSpec.filter_sectionIssues, hbounds, hplan]
  rw [solution] at haudit
  rw [haudit, List.append_nil, List.append_nil, List.append_nil, List.map_map]
  rfl

/-- A section is published under its id, and at every breakpoint with the boxes that have a
dimension, in the order of their enumeration. -/
theorem exists_published {sectionId : String} {s : SectionSpec α}
    (hs : i.layout.sections.get? sectionId = some s) :
    ∃ areas, i.solution.plan.sections.get? sectionId = some areas ∧
      ∀ bp, (areas.get bp).keys = s.sizedIds := by
  have hslice : ∀ bp, (sliceAt i.solution.plan.sections bp).map IdMap.keys =
      i.layout.sections.map SectionSpec.sizedIds := by
    intro bp
    rw [solution, solve_plan, sliceAt_assemble, keys_gridAt, LayoutSpec.keys_arrangeSections]
  have hfound : ∀ bp, (i.solution.plan.sections.get? sectionId).map (fun areas =>
      (areas.get bp).keys) = some s.sizedIds := by
    intro bp
    have h := congrArg (IdMap.get? · sectionId) (hslice bp)
    rw [sliceAt, IdMap.get?_map, IdMap.get?_map, IdMap.get?_map, hs, Option.map_map] at h
    exact h
  obtain ⟨areas, hareas, -⟩ := Option.map_eq_some_iff.mp (hfound .xs)
  refine ⟨areas, hareas, fun bp => ?_⟩
  have h := hfound bp
  rw [hareas] at h
  exact Option.some.inj h

theorem keys_sections_solution : i.solution.plan.sections.keys = i.layout.sections.keys := by
  rw [solution, solve_plan, assemble, IdMap.keys_mapEntries, LayoutSpec.arrangeSections_fst,
    IdMap.keys_mapEntries]

end Input

end

/-! ## Sizes, in exact numbers -/

/-- A usable size is its own absolute value. -/
theorem Coordinate.abs_of_usable {c : Coordinate Rat} (h : isUsableSize c.x c.y = true) :
    c.abs = c := by
  ext
  · exact (Scalar.abs_rat c.x).trans (abs_of_pos (along_pos_of_usable h .x))
  · exact (Scalar.abs_rat c.y).trans (abs_of_pos (along_pos_of_usable h .y))

/-- **A box is arranged with the size that its dimension leads to**, whatever operations have been
carried out on it. -/
theorem SectionSpec.exists_dimension_of_get? {s : SectionSpec Rat} {sectionId : String}
    {catalog : Catalog Rat} {options : Options Rat} {bp : Breakpoint} {boxId : String}
    {b : GridBox Rat}
    (h : ((s.arrange sectionId catalog options).1.get bp).get? boxId = some b) :
    ∃ d, s.dimension? boxId = some d ∧
      b.diagonal = (d.sizes catalog options ⟨sectionId, boxId⟩).get bp := by
  have hdiag := Operation.diagonal_get?_runAll (Schedule.at? s.schedule bp)
    (startingBoxes (s.sizedMembers sectionId catalog options) bp) boxId
  rw [get_arrange, outcomeAt] at h
  rw [h, Option.map_some] at hdiag
  obtain ⟨start, hstart, heq⟩ := Option.map_eq_some_iff.mp hdiag.symm
  obtain ⟨m, hm, hentry⟩ := mem_startingBoxes (IdMap.get?_eq_some_iff.mp hstart)
  obtain ⟨hid, rfl⟩ := Prod.mk.inj hentry
  obtain ⟨d, hd, hsizes⟩ := mem_sizedMembers hm
  rw [← hid] at hd hsizes
  refine ⟨d, hd, heq.symm.trans ?_⟩
  rw [GridBox.atOrigin, GridBox.new, hsizes]
  exact Coordinate.abs_of_usable (d.usable_sizes (by decide) catalog options _ bp)

namespace Input

/-- **A published area has the size of its box.** -/
theorem finish_sub_start (i : Input Rat) (bp : Breakpoint) (p : GridPlan.Placed Rat)
    (hp : p ∈ i.solution.plan.placedAt bp) :
    ∃ s d, i.layout.sections.get? p.sectionId = some s ∧ s.dimension? p.boxId = some d ∧
      p.area.finish - p.area.start = i.sizeAt bp ⟨p.sectionId, p.boxId⟩ d := by
  obtain ⟨s, b, hs, hb, harea⟩ := mem_placedAt_solution.mp hp
  obtain ⟨d, hd, hdiag⟩ := SectionSpec.exists_dimension_of_get? hb
  obtain ⟨placed, -, -, hcarry⟩ := exists_placement (get?_arranged_of_some hs)
    i.layout.schedule bp
  refine ⟨s, d, hs, hd, ?_⟩
  rw [harea, hcarry, GridArea.finish_translate, GridArea.start_translate, GridArea.finish_ofBox,
    GridArea.start_ofBox, sizeAt, ← hdiag]
  ext <;> simp [GridBox.farCorner]

/-- **Nothing is lost, added or resized.**  Over any numbers, a solve publishes the sections of the
layout in their order, and at every breakpoint a section lists its boxes that have a dimension, each
once, in the order that it asks for or else in the order of their declaration; every box without a
dimension is reported in one warning, and no other box is.  In exact numbers every area has the size
that the dimension of its box leads to at the breakpoint, whatever operations have been carried
out. -/
theorem solution_inventory :
    (∀ {α : Type} [Scalar α] (i : Input α),
      i.solution.plan.sections.keys = i.layout.sections.keys ∧
      (∀ sectionId s, i.layout.sections.get? sectionId = some s →
        ∃ areas, i.solution.plan.sections.get? sectionId = some areas ∧
          ∀ bp, (areas.get bp).keys = (match s.order with
              | some reference => orderIds s.boxes.keys reference
              | none => s.boxes.keys).filter (fun boxId => (s.dimension? boxId).isSome) ∧
            (areas.get bp).keys.Nodup ∧
            ∀ boxId, boxId ∈ (areas.get bp).keys ↔
              ∃ b d, s.boxes.get? boxId = some b ∧ b.dimension = some d) ∧
      ∃ places : List BoxPlace, places.Nodup ∧
        (∀ place, place ∈ places ↔ ∃ s b, i.layout.sections.get? place.sectionId = some s ∧
          s.boxes.get? place.boxId = some b ∧ b.dimension = none) ∧
        Diagnostic.withCode i.solution.diagnostics .noBoxesProcessed =
          places.map (fun place => (Issue.noDimension place).diagnostic) ∧
        ∀ d ∈ Diagnostic.withCode i.solution.diagnostics .noBoxesProcessed,
          d.severity = .warning) ∧
    ∀ (i : Input Rat) (bp : Breakpoint), ∀ p ∈ i.solution.plan.placedAt bp,
      ∃ s d, i.layout.sections.get? p.sectionId = some s ∧ s.dimension? p.boxId = some d ∧
        p.area.colEnd - p.area.colStart = (i.sizeAt bp ⟨p.sectionId, p.boxId⟩ d).x ∧
        p.area.rowEnd - p.area.rowStart = (i.sizeAt bp ⟨p.sectionId, p.boxId⟩ d).y := by
  constructor
  · intro α _ i
    refine ⟨i.keys_sections_solution, fun sectionId s hs => ?_, i.layout.unsizedPlaces,
      i.layout.nodup_unsizedPlaces, fun _ => LayoutSpec.mem_unsizedPlaces,
      i.withCode_noBoxesProcessed, fun d hd => ?_⟩
    · obtain ⟨areas, hareas, hkeys⟩ := i.exists_published hs
      refine ⟨areas, hareas, fun bp => ⟨hkeys bp, (areas.get bp).nodup_keys, fun boxId => ?_⟩⟩
      rw [hkeys bp]
      exact SectionSpec.mem_sizedIds
    · rw [i.withCode_noBoxesProcessed] at hd
      obtain ⟨place, -, rfl⟩ := List.mem_map.mp hd
      rfl
  · intro i bp p hp
    obtain ⟨s, d, hs, hd, hsize⟩ := i.finish_sub_start bp p hp
    exact ⟨s, d, hs, hd, congrArg Coordinate.x hsize, congrArg Coordinate.y hsize⟩

/-- A section with an order that names a box that is not there and leaves one out, a box without a
dimension, and operations that push boxes about. -/
def shelf : Input Rat where
  layout := {
    sections := IdMap.ofList [
      ("s", ⟨IdMap.ofList [("a", ⟨some (.uniform "wide")⟩), ("b", ⟨none⟩),
          ("c", ⟨some (.uniform "tall")⟩)],
        some (.uniform [.stacked .y (-1), .moveBy (.valid ⟨"a"⟩) (.vector ⟨-3, 1 / 2⟩) none]),
        some ["c", "ghost", "b"]⟩)]
    schedule := none }
  catalog := threeShapes
  options := Options.default

theorem shelf_inventory :
    shelf.solution.plan.sections.keys = ["s"] ∧
      ⟨"s", "a", ⟨1, 5, 7 / 2, 9 / 2⟩⟩ ∈ shelf.solution.plan.placedAt .md ∧
      ∃ s d, shelf.layout.sections.get? "s" = some s ∧ s.dimension? "a" = some d ∧
        5 - 1 = (shelf.sizeAt .md ⟨"s", "a"⟩ d).x ∧
        9 / 2 - 7 / 2 = (shelf.sizeAt .md ⟨"s", "a"⟩ d).y := by
  have hp : ⟨"s", "a", ⟨1, 5, 7 / 2, 9 / 2⟩⟩ ∈ shelf.solution.plan.placedAt .md := by
    decide +kernel
  exact ⟨(solution_inventory.1 shelf).1, hp, solution_inventory.2 shelf .md _ hp⟩

end Input

end GridLayout
