import GridLayout.Proofs.Reports
import GridLayout.Proofs.Slices
import Mathlib.Data.List.Basic

/-!
# Every breakpoint is solved on its own

What a solve says about a breakpoint depends on what its input says about that breakpoint: the sizes
of the boxes there, the operations there, and whether overlaps are looked for there.  The ids of
sections and boxes and the orders hold for all breakpoints alike.  `Input.AgreeAt` is this much of
an input, compared between two of them; the rest of the two inputs may be as different as it likes.

The proof goes stage by stage.  Each stage is a function of the breakpoint's part of the stage
before, for its result and for its reports:

* `Input.slice_arranged`, `Input.filter_sectionIssues`: both are read off `Input.outcomesAt`, which
  is the same for inputs that agree (`Input.outcomesAt_eq`).
* `slice_sectionBounds`, `filter_boundsIssues`: bounding boxes come from the arranged boxes.
* `filter_planIssues`: the reports of a plan at a breakpoint are those of its grid there.
* `filter_overlapIssues`: the audit of a breakpoint looks at the areas of that breakpoint.

`Input.solution_eq_of_agreeAt` puts them together.
-/

namespace GridLayout

variable {α : Type} [Scalar α]

/-! ## Inputs -/

/-- What a solve is given. -/
structure Input (α : Type) where
  layout : LayoutSpec α
  catalog : Catalog α
  options : Options α

/-- What a solve makes of it. -/
def Input.solution (i : Input α) : Solution α := solve i.layout i.catalog i.options

/-- The size of a box of a dimension at a breakpoint. -/
def Input.sizeAt (i : Input α) (bp : Breakpoint) (box : BoxPlace) (d : Dimension α) :
    Coordinate α :=
  (d.sizes i.catalog i.options box).get bp

/-- Two sections say the same about a breakpoint. -/
structure Input.SectionsAgreeAt (bp : Breakpoint) (sectionId : String) (i j : Input α)
    (s t : SectionSpec α) : Prop where
  boxIds : s.boxes.keys = t.boxes.keys
  order : s.order = t.order
  /-- The same boxes have a dimension. -/
  sized : ∀ boxId, (s.dimension? boxId).isSome = (t.dimension? boxId).isSome
  /-- The dimensions lead to the same sizes at the breakpoint. -/
  sizes : ∀ boxId d e, s.dimension? boxId = some d → t.dimension? boxId = some e →
    i.sizeAt bp ⟨sectionId, boxId⟩ d = j.sizeAt bp ⟨sectionId, boxId⟩ e
  operations : Schedule.at? s.schedule bp = Schedule.at? t.schedule bp

/-- Two inputs say the same about a breakpoint. -/
structure Input.AgreeAt (bp : Breakpoint) (i j : Input α) : Prop where
  sectionIds : i.layout.sections.keys = j.layout.sections.keys
  sections : ∀ sectionId s t, i.layout.sections.get? sectionId = some s →
    j.layout.sections.get? sectionId = some t → SectionsAgreeAt bp sectionId i j s t
  operations : Schedule.at? i.layout.schedule bp = Schedule.at? j.layout.schedule bp
  policy : i.options.overlapPolicy = j.options.overlapPolicy
  audited : bp ∈ i.options.overlapBreakpoints ↔ bp ∈ j.options.overlapBreakpoints

/-! ## Reports about what is written -/

/-- A size that cannot be found is reported as a matter of shapes. -/
theorem Catalog.origin_find {catalog : Catalog α} {shape : String} {box : BoxPlace}
    {bp : Option Breakpoint} {fallback : Coordinate α} {issue : Issue α}
    (h : catalog.find shape box bp fallback = .error issue) : issue.origin = .boxShape := by
  rw [Catalog.find] at h
  split at h
  · split at h
    · exact nomatch h
    · rw [← Except.error.inj h]
      rfl
  · rw [← Except.error.inj h]
    rfl

theorem Dimension.origin_find {d : Dimension α} {catalog : Catalog α} {box : BoxPlace}
    {bp : Breakpoint} {fallback : Coordinate α} {issue : Issue α}
    (h : d.find catalog box bp fallback = .error issue) : issue.origin = .boxShape := by
  unfold Dimension.find at h
  split at h
  · exact Catalog.origin_find h
  · split at h
    · exact Catalog.origin_find h
    · rw [← Except.error.inj h]
      rfl
  · rw [← Except.error.inj h]
    rfl

/-! ## Sections -/

omit [Scalar α] in
theorem isPlacementAt_operationIssues {bp : Breakpoint} {sectionId : Option String}
    {failures : List (Operation α × Failure α)} :
    ∀ issue ∈ operationIssues ⟨bp, sectionId⟩ failures, issue.isPlacementAt bp = true := by
  intro issue h
  obtain ⟨f, -, rfl⟩ := List.mem_map.mp h
  cases bp <;> rfl

namespace SectionSpec

/-- What is reported about the boxes of a section is no report of placing boxes. -/
theorem isPlacement_memberIssues {s : SectionSpec α} {sectionId : String} {catalog : Catalog α}
    {options : Options α} {issue : Issue α} (h : issue ∈ s.memberIssues sectionId catalog options) :
    issue.origin.isPlacement = false := by
  obtain ⟨boxId, -, hbox⟩ := List.mem_flatMap.mp h
  split at hbox
  · obtain ⟨bp, -, hbp⟩ := List.mem_flatMap.mp hbox
    split at hbp
    · exact absurd hbp List.not_mem_nil
    · next hfind =>
      rw [List.mem_singleton.mp hbp, Dimension.origin_find hfind]
      rfl
  · rw [List.mem_singleton.mp hbox]
    rfl

/-- The reports of placing the boxes of a section at a breakpoint are those of the operations that
fail there. -/
theorem filter_arrangeIssues (s : SectionSpec α) (sectionId : String) (catalog : Catalog α)
    (options : Options α) (bp : Breakpoint) :
    (s.arrange sectionId catalog options).2.filter (Issue.isPlacementAt bp) =
      operationIssues ⟨bp, some sectionId⟩ (s.outcomeAt sectionId catalog options bp).2 := by
  have horder : (s.orderIssues sectionId : List (Issue α)).filter (Issue.isPlacementAt bp) = [] :=
    Issue.filter_eq_nil_of_origin (fun _ h => congrArg Origin.isPlacement (origin_orderIssues h)) bp
  have hmember : (s.memberIssues sectionId catalog options).filter (Issue.isPlacementAt bp) = [] :=
    Issue.filter_eq_nil_of_origin (fun _ => isPlacement_memberIssues) bp
  rw [arrange_eq, List.filter_append, List.filter_append, horder, hmember, List.nil_append,
    List.nil_append, Bps.entries, List.flatMap_map,
    Issue.filter_flatMap_all fun _ => isPlacementAt_operationIssues, Bps.get_ofFn]

end SectionSpec

namespace Input

/-- What becomes of the boxes of all sections at a breakpoint. -/
def outcomesAt (i : Input α) (bp : Breakpoint) :
    IdMap (BoxMap α × List (Operation α × Failure α)) :=
  i.layout.sections.mapEntries fun id s => s.outcomeAt id i.catalog i.options bp

/-- The arranged sections. -/
def arranged (i : Input α) : IdMap (LocalBoxes α) :=
  (i.layout.arrangeSections i.catalog i.options).1

theorem slice_arranged (i : Input α) (bp : Breakpoint) :
    (i.arranged.map fun s => s.get bp) = (i.outcomesAt bp).map Prod.fst := by
  rw [arranged, LayoutSpec.arrangeSections_fst, IdMap.map_mapEntries, outcomesAt,
    IdMap.map_mapEntries]
  exact IdMap.mapEntries_congr fun e _ => e.2.get_arrange e.1 i.catalog i.options bp

theorem filter_sectionIssues (i : Input α) (bp : Breakpoint) :
    (i.layout.arrangeSections i.catalog i.options).2.filter (Issue.isPlacementAt bp) =
      (i.outcomesAt bp).entries.flatMap fun e => operationIssues ⟨bp, some e.1⟩ e.2.2 := by
  have hoptions : i.options.issues.filter (Issue.isPlacementAt bp) = [] := by
    refine Issue.filter_eq_nil_of_origin (fun issue h => ?_) bp
    rw [Options.issues] at h
    split at h
    · exact absurd h List.not_mem_nil
    · rw [List.mem_singleton.mp h]
      rfl
  rw [LayoutSpec.arrangeSections, List.filter_append, hoptions, List.nil_append, IdMap.values,
    List.filter_flatMap, outcomesAt, IdMap.entries_mapEntries, IdMap.entries_mapEntries,
    List.flatMap_map, List.flatMap_map, List.flatMap_map]
  refine List.flatMap_congr fun e _ => ?_
  exact SectionSpec.filter_arrangeIssues _ _ _ _ _

end Input

/-! ## Bounding boxes -/

theorem slice_sectionBounds (sections : IdMap (LocalBoxes α)) (bp : Breakpoint) :
    ((sectionBounds sections).1.map fun e => e.get bp) =
      (sections.map fun s => s.get bp).map fun boxes => (enclosing? boxes).getD GridBox.empty := by
  rw [sectionBounds, IdMap.map_map, IdMap.map_map]
  refine IdMap.map_congr fun s _ => ?_
  rw [Function.comp_apply, Function.comp_apply, LocalBoxes.bounds, Bps.get_map]

/-- Out of the breakpoints at which a section has no boxes, one. -/
theorem LocalBoxes.filter_emptyIssues (boxes : LocalBoxes α) (sectionId : String)
    (bp : Breakpoint) :
    (LocalBoxes.emptyIssues boxes sectionId).filter (Issue.isPlacementAt bp) =
      if (boxes.get bp).isEmpty then [.sectionEmpty sectionId bp] else [] := by
  rw [LocalBoxes.emptyIssues, Bps.entries, List.flatMap_map]
  refine Issue.filter_flatMap_all (fun bp' issue h => ?_) bp
  split at h
  · rw [List.mem_singleton.mp h]
    cases bp' <;> rfl
  · exact absurd h List.not_mem_nil

theorem filter_boundsIssues (sections : IdMap (LocalBoxes α)) (bp : Breakpoint) :
    (sectionBounds sections).2.filter (Issue.isPlacementAt bp) =
      (sections.map fun s => s.get bp).entries.flatMap fun e =>
        if e.2.isEmpty then [.sectionEmpty e.1 bp] else [] := by
  rw [sectionBounds, List.filter_flatMap, IdMap.entries_map, List.flatMap_map]
  exact List.flatMap_congr fun e _ => LocalBoxes.filter_emptyIssues e.2 e.1 bp

/-! ## Grids -/

theorem isPlacementAt_gridAt (sections : IdMap (LocalBoxes α)) (bounds : IdMap (Bps (GridBox α)))
    (schedule : Option (Schedule α)) (bp : Breakpoint) :
    ∀ issue ∈ (gridAt sections bounds schedule bp).issues, issue.isPlacementAt bp = true := by
  intro issue h
  rcases List.mem_append.mp h with hops | hnorm
  · exact isPlacementAt_operationIssues issue hops
  · rw [normalizeAt] at hnorm
    split at hnorm
    · rw [List.mem_singleton.mp hnorm]
      cases bp <;> rfl
    · split at hnorm
      · exact absurd hnorm List.not_mem_nil
      · rw [List.mem_singleton.mp hnorm]
        cases bp <;> rfl

/-- The reports of a plan at a breakpoint are those of its grid there. -/
theorem filter_planIssues (sections : IdMap (LocalBoxes α)) (bounds : IdMap (Bps (GridBox α)))
    (schedule : Option (Schedule α)) (bp : Breakpoint) :
    (assemble sections bounds schedule).2.filter (Issue.isPlacementAt bp) =
      (gridAt sections bounds schedule bp).issues := by
  rw [assemble, Bps.toList, List.flatMap_map]
  refine Eq.trans ?_ (Issue.filter_flatMap_all (isPlacementAt_gridAt sections bounds schedule) bp)
  refine congrArg (List.filter _) (List.flatMap_congr fun bp' _ => ?_)
  rw [Bps.get_ofFn, gridAt]

/-- A grid is a function of the arranged boxes and of the operations at its breakpoint. -/
theorem gridAt_congr {sections sections' : IdMap (LocalBoxes α)}
    {schedule schedule' : Option (Schedule α)} {bp : Breakpoint}
    (hslice : (sections.map fun s => s.get bp) = sections'.map fun s => s.get bp)
    (hops : Schedule.at? schedule bp = Schedule.at? schedule' bp) :
    gridAt sections (sectionBounds sections).1 schedule bp =
      gridAt sections' (sectionBounds sections').1 schedule' bp := by
  rw [gridAt, gridAt, slice_sectionBounds, slice_sectionBounds, hslice, hops]

/-! ## The audit -/

theorem mem_distinctBreakpoints {bp : Breakpoint} {bps : List Breakpoint} :
    bp ∈ distinctBreakpoints bps ↔ bp ∈ bps := by
  induction bps with
  | nil => rfl
  | cons bp' rest ih =>
    rw [distinctBreakpoints, List.mem_cons, List.mem_cons, List.mem_filter, ih, decide_eq_true_iff]
    constructor
    · exact Or.imp_right And.left
    · intro h
      by_cases heq : bp = bp'
      · exact Or.inl heq
      · exact Or.inr ⟨h.resolve_left heq, heq⟩

theorem nodup_distinctBreakpoints (bps : List Breakpoint) : (distinctBreakpoints bps).Nodup := by
  induction bps with
  | nil => exact List.nodup_nil
  | cons bp rest ih =>
    rw [distinctBreakpoints, List.nodup_cons]
    refine ⟨fun h => ?_, ih.filter _⟩
    exact of_decide_eq_true (List.mem_filter.mp h).2 rfl

/-- The audit reports on a breakpoint when it is one of those that are asked for, and then looks at
the boxes of that breakpoint. -/
theorem filter_overlapIssues (plan : GridPlan α) (bps : List Breakpoint) (policy : OverlapPolicy)
    (bp : Breakpoint) :
    (overlapIssues plan bps policy).filter (Issue.isPlacementAt bp) =
      if bp ∈ bps then overlapIssues plan [bp] policy else [] := by
  cases hseverity : policy.severity? with
  | none =>
    rw [overlapIssues, overlapIssues, hseverity]
    exact (ite_self _).symm
  | some severity =>
    have hplace : ∀ bp', ∀ issue ∈ (overlapsAt plan bp').map fun p =>
        Issue.overlap severity bp' p.1 p.2, issue.isPlacementAt bp' = true := by
      intro bp' issue h
      obtain ⟨p, -, rfl⟩ := List.mem_map.mp h
      cases bp' <;> rfl
    rw [overlapIssues, overlapIssues, hseverity]
    show ((distinctBreakpoints bps).flatMap fun bp' => (overlapsAt plan bp').map fun p =>
      Issue.overlap severity bp' p.1 p.2).filter (Issue.isPlacementAt bp) = _
    rw [Issue.filter_flatMap hplace (nodup_distinctBreakpoints bps)]
    simp only [mem_distinctBreakpoints, distinctBreakpoints, List.filter_nil, List.flatMap_cons,
      List.flatMap_nil, List.append_nil]

/-- The audit of a breakpoint is a function of the areas at that breakpoint. -/
theorem overlapIssues_congr {plan plan' : GridPlan α} {bp : Breakpoint}
    (h : sliceAt plan.sections bp = sliceAt plan'.sections bp) (policy : OverlapPolicy) :
    overlapIssues plan [bp] policy = overlapIssues plan' [bp] policy := by
  have hover : overlapsAt plan bp = overlapsAt plan' bp := by
    rw [overlapsAt, overlapsAt, GridPlan.placedAt_eq, GridPlan.placedAt_eq, h]
  rw [overlapIssues, overlapIssues]
  simp only [distinctBreakpoints, List.filter_nil, List.flatMap_cons, List.flatMap_nil, hover]

/-! ## Two solves -/

namespace Input

variable {i j : Input α} {bp : Breakpoint}

/-- Sections that agree at a breakpoint have the same boxes there, with the same sizes. -/
theorem startingBoxes_eq {sectionId : String} {s t : SectionSpec α}
    (h : SectionsAgreeAt bp sectionId i j s t) :
    SectionSpec.startingBoxes (s.sizedMembers sectionId i.catalog i.options) bp =
      SectionSpec.startingBoxes (t.sizedMembers sectionId j.catalog j.options) bp := by
  have hids : s.memberIds = t.memberIds := by
    rw [SectionSpec.memberIds, SectionSpec.memberIds, h.boxIds, h.order]
  rw [SectionSpec.startingBoxes, SectionSpec.startingBoxes, SectionSpec.sizedMembers,
    SectionSpec.sizedMembers, List.map_filterMap, List.map_filterMap, hids]
  congr 1
  refine List.filterMap_congr fun boxId _ => ?_
  have hsized := h.sized boxId
  cases hs : s.dimension? boxId with
  | none =>
    rw [hs, Option.isSome_none, Eq.comm, Option.isSome_eq_false_iff, Option.isNone_iff_eq_none]
      at hsized
    rw [hsized]
    rfl
  | some d =>
    rw [hs, Option.isSome_some, Eq.comm, Option.isSome_iff_exists] at hsized
    obtain ⟨e, ht⟩ := hsized
    have hsize := h.sizes boxId d e hs ht
    rw [sizeAt, sizeAt] at hsize
    rw [ht, Option.map_some, Option.map_some, Option.map_some, Option.map_some, hsize]

/-- Inputs that agree at a breakpoint lead to the same boxes in every section there, and to the same
failures. -/
theorem outcomesAt_eq (h : AgreeAt bp i j) : i.outcomesAt bp = j.outcomesAt bp := by
  refine IdMap.mapEntries_eq_of_keys_eq h.sectionIds fun sectionId s t hs ht => ?_
  have hst := h.sections sectionId s t hs ht
  rw [SectionSpec.outcomeAt, SectionSpec.outcomeAt, startingBoxes_eq hst, hst.operations]

/-- What there is to report about placing boxes at a breakpoint, stage by stage. -/
def placementIssues (i : Input α) (bp : Breakpoint) : List (Issue α) :=
  ((i.outcomesAt bp).entries.flatMap fun e => operationIssues ⟨bp, some e.1⟩ e.2.2) ++
    (((i.outcomesAt bp).map Prod.fst).entries.flatMap fun e =>
      if e.2.isEmpty then [.sectionEmpty e.1 bp] else []) ++
    (gridAt i.arranged (sectionBounds i.arranged).1 i.layout.schedule bp).issues ++
    if bp ∈ i.options.overlapBreakpoints then
      overlapIssues i.solution.plan [bp] i.options.overlapPolicy
    else []

theorem filter_diagnostics (i : Input α) (bp : Breakpoint) :
    i.solution.diagnostics.filter (Diagnostic.isPlacementAt bp) =
      (i.placementIssues bp).map Issue.diagnostic := by
  rw [placementIssues, ← slice_arranged, ← filter_sectionIssues, ← filter_boundsIssues,
    ← filter_planIssues, ← filter_overlapIssues, ← List.filter_append, ← List.filter_append,
    ← List.filter_append, ← Issue.filter_map_diagnostic, solution, solve_diagnostics,
    issues_stages, arranged]

/-- **Every breakpoint is solved on its own.**  Two inputs that agree at a breakpoint get the same
areas, the same dimensions and the same shift there, and the same reports of placing boxes, whatever
the two say about the other breakpoints. -/
theorem solution_eq_of_agreeAt (h : AgreeAt bp i j) :
    sliceAt i.solution.plan.sections bp = sliceAt j.solution.plan.sections bp ∧
      i.solution.plan.dimensions.get bp = j.solution.plan.dimensions.get bp ∧
      i.solution.plan.normalization.get bp = j.solution.plan.normalization.get bp ∧
      i.solution.diagnostics.filter (Diagnostic.isPlacementAt bp) =
        j.solution.diagnostics.filter (Diagnostic.isPlacementAt bp) := by
  have houtcomes := outcomesAt_eq h
  have hplan : ∀ k : Input α, k.solution.plan =
      (assemble k.arranged (sectionBounds k.arranged).1 k.layout.schedule).1 :=
    fun k => solve_plan k.layout k.catalog k.options
  have hgrid : gridAt i.arranged (sectionBounds i.arranged).1 i.layout.schedule bp =
      gridAt j.arranged (sectionBounds j.arranged).1 j.layout.schedule bp :=
    gridAt_congr (by rw [slice_arranged, slice_arranged, houtcomes]) h.operations
  have hslice : sliceAt i.solution.plan.sections bp = sliceAt j.solution.plan.sections bp := by
    rw [hplan, hplan, sliceAt_assemble, sliceAt_assemble, hgrid]
  refine ⟨hslice, ?_, ?_, ?_⟩
  · rw [hplan, hplan, dimensions_assemble, dimensions_assemble, hgrid]
  · rw [hplan, hplan, normalization_assemble, normalization_assemble, hgrid]
  · rw [filter_diagnostics, filter_diagnostics, placementIssues, placementIssues, houtcomes, hgrid,
      h.policy, overlapIssues_congr hslice]
    simp only [h.audited]

/-- A layout of one section with two boxes, `a` and `b`. -/
def pairOf (a b : Dimension Rat) (schedule : Schedule Rat) : LayoutSpec Rat :=
  ⟨IdMap.ofList [("s",
    ⟨IdMap.ofList [("a", ⟨some a⟩), ("b", ⟨some b⟩)], some schedule, none⟩)], none⟩

/-- Two cells, one over the other except at the largest breakpoint, where they are stacked. -/
def stackedAtXl : Input Rat where
  layout := pairOf (.uniform "unit") (.uniform "unit")
    (.perBreakpoint ((Bps.splat none).set .xl (some [.stacked .x 0])))
  catalog := fun shape => if shape = "unit" then some (1, 1) else none
  options := ⟨.warn, Breakpoint.all, (1, 1)⟩

/-- The same two cells at the largest breakpoint, and other boxes below it. -/
def wideBelowXl : Input Rat where
  layout := pairOf (.perBreakpoint [("xs", .string "wide"), ("xl", .string "cell")])
    (.uniform "cell") (.uniform [.stacked .x 0])
  catalog := fun shape => if shape = "cell" then some (1, 1) else some (3, 2)
  options := ⟨.warn, [.xl], (2, 2)⟩

/-- The two inputs say the same about the largest breakpoint. -/
theorem agreeAt_xl : AgreeAt .xl stackedAtXl wideBelowXl where
  sectionIds := rfl
  sections := by
    intro sectionId s t hs ht
    obtain ⟨rfl, rfl⟩ := Prod.mk.inj (List.mem_singleton.mp (IdMap.get?_eq_some_iff.mp hs))
    obtain ⟨-, rfl⟩ := Prod.mk.inj (List.mem_singleton.mp (IdMap.get?_eq_some_iff.mp ht))
    refine ⟨rfl, rfl, ?_, ?_, rfl⟩
    · intro boxId
      show ((IdMap.get? _ boxId).bind _).isSome = ((IdMap.get? _ boxId).bind _).isSome
      rw [IdMap.get?_eq_lookup, IdMap.get?_eq_lookup]
      show ((List.lookup boxId [("a", _), ("b", _)]).bind _).isSome =
        ((List.lookup boxId [("a", _), ("b", _)]).bind _).isSome
      rw [List.lookup_cons, List.lookup_cons, List.lookup_cons, List.lookup_cons]
      cases boxId == "a" <;> cases boxId == "b" <;> rfl
    · intro boxId d e hd he
      obtain ⟨spec, hspec, -⟩ := Option.bind_eq_some_iff.mp hd
      rcases List.mem_cons.mp (IdMap.get?_eq_some_iff.mp hspec) with hab | hab
      · obtain ⟨rfl, -⟩ := Prod.mk.inj hab
        cases hd
        cases he
        decide +kernel
      · obtain ⟨rfl, -⟩ := Prod.mk.inj (List.mem_singleton.mp hab)
        cases hd
        cases he
        decide +kernel
  operations := rfl
  policy := rfl
  audited := by decide

/-- The two inputs come to the same at the largest breakpoint, and not below it. -/
theorem solution_eq_at_xl :
    AgreeAt .xl stackedAtXl wideBelowXl ∧
      (sliceAt stackedAtXl.solution.plan.sections .xl =
          sliceAt wideBelowXl.solution.plan.sections .xl ∧
        stackedAtXl.solution.plan.dimensions.get .xl =
          wideBelowXl.solution.plan.dimensions.get .xl ∧
        stackedAtXl.solution.plan.normalization.get .xl =
          wideBelowXl.solution.plan.normalization.get .xl ∧
        stackedAtXl.solution.diagnostics.filter (Diagnostic.isPlacementAt .xl) =
          wideBelowXl.solution.diagnostics.filter (Diagnostic.isPlacementAt .xl)) ∧
      stackedAtXl.solution.plan.area? "s" .md "b" ≠ wideBelowXl.solution.plan.area? "s" .md "b" :=
  ⟨agreeAt_xl, solution_eq_of_agreeAt agreeAt_xl, by decide +kernel⟩

end Input

end GridLayout
