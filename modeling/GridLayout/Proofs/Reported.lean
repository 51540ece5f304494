import GridLayout.Proofs.Overlaps
import GridLayout.Proofs.Placement
import GridLayout.Proofs.Runs

/-!
# Everything a solve reports

A solve collects its issues stage by stage, and within a stage section by section and breakpoint by
breakpoint.  `Input.Reports` says the same without the order: an issue is reported when one of eight
causes is there, each with what it takes.  Statements about all reports of a solve, that there are
none or that none of them is an error, are read off the causes one by one.

* `Input.mem_issues_iff`: the issues of a solve are those with a cause.
* `Input.diagnostics_eq_nil_iff`: a solve reports nothing exactly when no cause is there.
* `Input.hasErrors_iff`: a solve reports an error exactly when a cause of an error is there.
* `Input.OperationsSucceedAt`: no operation of a layout fails at a breakpoint, on either level.
* `Input.operationsSucceedAt_of_not_reports`, `Input.disjointAt_of_not_reports`: an operation that
  fails and an overlap that is looked for are reported.
* `Issue.severity_eq_warning`: errors come from operations and from the audit only.
-/

namespace GridLayout

variable {α : Type} [Scalar α]

/-! ## Stages -/

theorem SectionSpec.mem_arrangeIssues {s : SectionSpec α} {sectionId : String}
    {catalog : Catalog α} {options : Options α} {issue : Issue α} :
    issue ∈ (s.arrange sectionId catalog options).2 ↔
      issue ∈ s.orderIssues sectionId ∨ issue ∈ s.memberIssues sectionId catalog options ∨
        ∃ bp, ∃ f ∈ (s.outcomeAt sectionId catalog options bp).2,
          issue = .operation ⟨bp, some sectionId⟩ f.1.verb f.2 := by
  rw [arrange_eq]
  simp only [List.mem_append, or_assoc, Bps.entries, List.flatMap_map, List.mem_flatMap,
    Breakpoint.mem_all, true_and, Bps.get_ofFn, operationIssues, List.mem_map, eq_comm]

theorem LayoutSpec.mem_sectionIssues {layout : LayoutSpec α} {catalog : Catalog α}
    {options : Options α} {issue : Issue α} :
    issue ∈ (layout.arrangeSections catalog options).2 ↔
      issue ∈ options.issues ∨ ∃ sectionId s, layout.sections.get? sectionId = some s ∧
        issue ∈ (s.arrange sectionId catalog options).2 := by
  rw [arrangeSections, List.mem_append, List.mem_flatMap]
  refine or_congr Iff.rfl ⟨?_, ?_⟩
  · rintro ⟨arranged, harranged, hissue⟩
    obtain ⟨sectionId, hid⟩ := IdMap.mem_values.mp harranged
    rw [IdMap.get?_mapEntries] at hid
    obtain ⟨s, hs, rfl⟩ := Option.map_eq_some_iff.mp hid
    exact ⟨sectionId, s, hs, hissue⟩
  · rintro ⟨sectionId, s, hs, hissue⟩
    refine ⟨s.arrange sectionId catalog options, IdMap.mem_values.mpr ⟨sectionId, ?_⟩, hissue⟩
    rw [IdMap.get?_mapEntries, hs]
    rfl

theorem LocalBoxes.mem_emptyIssues {boxes : LocalBoxes α} {sectionId : String} {issue : Issue α} :
    issue ∈ LocalBoxes.emptyIssues boxes sectionId ↔
      ∃ bp, (boxes.get bp).isEmpty = true ∧ issue = .sectionEmpty sectionId bp := by
  simp only [LocalBoxes.emptyIssues, Bps.entries, List.flatMap_map, List.mem_flatMap,
    Breakpoint.mem_all, true_and]
  refine exists_congr fun bp => ?_
  cases (boxes.get bp).isEmpty with
  | true => rw [if_pos rfl, List.mem_singleton, eq_self, true_and]
  | false => exact ⟨fun h => absurd h List.not_mem_nil, fun h => absurd h.1 Bool.false_ne_true⟩

theorem mem_boundsIssues {sections : IdMap (LocalBoxes α)} {issue : Issue α} :
    issue ∈ (sectionBounds sections).2 ↔
      ∃ sectionId boxes bp, sections.get? sectionId = some boxes ∧
        (boxes.get bp).isEmpty = true ∧ issue = .sectionEmpty sectionId bp := by
  rw [sectionBounds, List.mem_flatMap]
  constructor
  · rintro ⟨e, he, hissue⟩
    obtain ⟨bp, hempty, rfl⟩ := LocalBoxes.mem_emptyIssues.mp hissue
    exact ⟨e.1, e.2, bp, IdMap.get?_of_mem he, hempty, rfl⟩
  · rintro ⟨sectionId, boxes, bp, hboxes, hempty, rfl⟩
    exact ⟨(sectionId, boxes), IdMap.get?_eq_some_iff.mp hboxes,
      LocalBoxes.mem_emptyIssues.mpr ⟨bp, hempty, rfl⟩⟩

theorem mem_planIssues {sections : IdMap (LocalBoxes α)} {bounds : IdMap (Bps (GridBox α))}
    {schedule : Option (Schedule α)} {issue : Issue α} :
    issue ∈ (assemble sections bounds schedule).2 ↔
      ∃ bp, issue ∈ (gridAt sections bounds schedule bp).issues := by
  rw [assemble, Bps.toList]
  simp only [List.flatMap_map, List.mem_flatMap, Breakpoint.mem_all, true_and, Bps.get_ofFn, gridAt]

/-! ## Severities -/

omit [Scalar α] in
/-- **Errors come from operations and from the audit only.** -/
theorem Issue.severity_eq_warning {issue : Issue α} (hop : issue.origin ≠ .transformation)
    (haudit : issue.origin ≠ .overlap) : issue.severity = .warning := by
  cases issue with
  | operation => exact absurd rfl hop
  | overlap => exact absurd rfl haudit
  | _ => rfl

/-- What there is to report about the shift to the first line is a matter of the grid. -/
theorem origin_normalizeAt {bp : Breakpoint} {areas : AreaMap α} {d : GridDimensions α}
    {issue : Issue α} (h : issue ∈ (normalizeAt bp areas d).issues) :
    issue.origin = .absoluteLayout := by
  unfold normalizeAt at h
  split at h
  · rw [List.mem_singleton.mp h]
    rfl
  · split at h
    · exact absurd h List.not_mem_nil
    · rw [List.mem_singleton.mp h]
      rfl

/-! ## Causes -/

namespace Input

/-- What a solve reports, cause by cause. -/
inductive Reports (i : Input α) : Issue α → Prop
  /-- The default size cannot be used. -/
  | fallback (h : i.options.hasUsableDefault = false) :
    Reports i (.defaultUnusable i.options.defaultSize i.options.fallback)
  /-- The order that a section asks for does not line up with its boxes. -/
  | order {sectionId : String} {s : SectionSpec α} {issue : Issue α}
    (hs : i.layout.sections.get? sectionId = some s) (h : issue ∈ s.orderIssues sectionId) :
    Reports i issue
  /-- A box has no dimension, or one that does not lead to a usable size. -/
  | member {sectionId : String} {s : SectionSpec α} {issue : Issue α}
    (hs : i.layout.sections.get? sectionId = some s)
    (h : issue ∈ s.memberIssues sectionId i.catalog i.options) :
    Reports i issue
  /-- An operation on the boxes of a section fails. -/
  | boxOperation {sectionId : String} {s : SectionSpec α} {bp : Breakpoint}
    {f : Operation α × Failure α} (hs : i.layout.sections.get? sectionId = some s)
    (h : f ∈ (s.outcomeAt sectionId i.catalog i.options bp).2) :
    Reports i (.operation ⟨bp, some sectionId⟩ f.1.verb f.2)
  /-- A section has no boxes. -/
  | emptySection {sectionId : String} {boxes : LocalBoxes α} {bp : Breakpoint}
    (hs : i.arranged.get? sectionId = some boxes) (h : (boxes.get bp).isEmpty = true) :
    Reports i (.sectionEmpty sectionId bp)
  /-- An operation on the sections fails. -/
  | sectionOperation {bp : Breakpoint} {f : Operation α × Failure α}
    (h : f ∈ (placementAt i.arranged i.layout.schedule bp).failures) :
    Reports i (.operation ⟨bp, none⟩ f.1.verb f.2)
  /-- There are no areas, or they have to be shifted. -/
  | shift {bp : Breakpoint} {issue : Issue α}
    (h : issue ∈ (normalizeAt bp (unshiftedAt i.arranged i.layout.schedule bp)
      (placementAt i.arranged i.layout.schedule bp).dimensions).issues) :
    Reports i issue
  /-- Two boxes overlap. -/
  | overlap {severity : Severity} {bp : Breakpoint} {p : GridPlan.Placed α × GridPlan.Placed α}
    (hpolicy : i.options.overlapPolicy.severity? = some severity)
    (hbp : bp ∈ i.options.overlapBreakpoints) (h : p ∈ overlapsAt i.solution.plan bp) :
    Reports i (.overlap severity bp p.1 p.2)

theorem mem_optionsIssues {options : Options α} {issue : Issue α} :
    issue ∈ options.issues ↔ options.hasUsableDefault = false ∧
      issue = .defaultUnusable options.defaultSize options.fallback := by
  rw [Options.issues]
  cases options.hasUsableDefault <;> simp

/-- **The issues of a solve are those with a cause.** -/
theorem mem_issues_iff {i : Input α} {issue : Issue α} :
    issue ∈ (i.layout.stages i.catalog i.options).issues ↔ i.Reports issue := by
  rw [issues_stages, List.mem_append, List.mem_append, List.mem_append,
    LayoutSpec.mem_sectionIssues, mem_boundsIssues, mem_planIssues, mem_overlapIssues]
  constructor
  · rintro ((((hoptions | ⟨sectionId, s, hs, hsection⟩) |
      ⟨sectionId, boxes, bp, hboxes, hempty, rfl⟩) | ⟨bp, hgrid⟩) |
      ⟨severity, bp, p, hseverity, hbp, hp, rfl⟩)
    · obtain ⟨hdefault, rfl⟩ := mem_optionsIssues.mp hoptions
      exact .fallback hdefault
    · rcases SectionSpec.mem_arrangeIssues.mp hsection with horder | hmember | ⟨bp, f, hf, rfl⟩
      · exact .order hs horder
      · exact .member hs hmember
      · exact .boxOperation hs hf
    · exact .emptySection hboxes hempty
    · rw [gridAt_eq, List.mem_append] at hgrid
      rcases hgrid with hop | hshift
      · obtain ⟨f, hf, rfl⟩ := List.mem_map.mp hop
        exact .sectionOperation hf
      · exact .shift hshift
    · exact .overlap hseverity hbp hp
  · intro h
    cases h with
    | fallback h => exact .inl (.inl (.inl (.inl (mem_optionsIssues.mpr ⟨h, rfl⟩))))
    | order hs h =>
      exact .inl (.inl (.inl (.inr ⟨_, _, hs, SectionSpec.mem_arrangeIssues.mpr (.inl h)⟩)))
    | member hs h =>
      exact .inl (.inl (.inl (.inr
        ⟨_, _, hs, SectionSpec.mem_arrangeIssues.mpr (.inr (.inl h))⟩)))
    | boxOperation hs h =>
      exact .inl (.inl (.inl (.inr
        ⟨_, _, hs, SectionSpec.mem_arrangeIssues.mpr (.inr (.inr ⟨_, _, h, rfl⟩))⟩)))
    | emptySection hs h => exact .inl (.inl (.inr ⟨_, _, _, hs, h, rfl⟩))
    | sectionOperation h =>
      exact .inl (.inr ⟨_, List.mem_append_left _ (List.mem_map_of_mem h)⟩)
    | shift h => exact .inl (.inr ⟨_, List.mem_append_right _ h⟩)
    | overlap hpolicy hbp h => exact .inr ⟨_, _, _, hpolicy, hbp, h, rfl⟩

/-! ## Operations -/

/-- The bounding boxes of all sections at a breakpoint, each on the first cell of the grid: the
boxes that the operations of the layout move. -/
def boundingBoxesAt (i : Input α) (bp : Breakpoint) : BoxMap α :=
  ((sectionBounds i.arranged).1.map fun e => e.get bp).map fun b => { b with origin := gridOrigin }

/-- No operation of a layout fails at a breakpoint. -/
structure OperationsSucceedAt (i : Input α) (bp : Breakpoint) : Prop where
  /-- The operations of a section succeed on its boxes. -/
  boxes : ∀ sectionId s, i.layout.sections.get? sectionId = some s →
    Operation.AllSucceed (Schedule.at? s.schedule bp)
      (SectionSpec.startingBoxes (s.sizedMembers sectionId i.catalog i.options) bp)
  /-- The operations of the layout succeed on the bounding boxes. -/
  sections : Operation.AllSucceed (Schedule.at? i.layout.schedule bp) (i.boundingBoxesAt bp)

/-- No operation fails exactly when no failure is listed, on either level. -/
theorem operationsSucceedAt_iff {i : Input α} {bp : Breakpoint} :
    i.OperationsSucceedAt bp ↔
      (∀ sectionId s, i.layout.sections.get? sectionId = some s →
        (s.outcomeAt sectionId i.catalog i.options bp).2 = []) ∧
      (placementAt i.arranged i.layout.schedule bp).failures = [] := by
  constructor
  · intro h
    exact ⟨fun sectionId s hs => Operation.failures_runAll_eq_nil_iff.mpr (h.boxes sectionId s hs),
      Operation.failures_runAll_eq_nil_iff.mpr h.sections⟩
  · rintro ⟨hboxes, hsections⟩
    exact ⟨fun sectionId s hs => Operation.failures_runAll_eq_nil_iff.mp (hboxes sectionId s hs),
      Operation.failures_runAll_eq_nil_iff.mp hsections⟩

/-- **An operation that fails is reported**: where no operation is reported, none fails. -/
theorem operationsSucceedAt_of_not_reports {i : Input α}
    (h : ∀ scope verb failure, ¬ i.Reports (.operation scope verb failure)) (bp : Breakpoint) :
    i.OperationsSucceedAt bp := by
  rw [operationsSucceedAt_iff, List.eq_nil_iff_forall_not_mem]
  refine ⟨fun sectionId s hs => ?_, fun f hf => h _ _ _ (.sectionOperation hf)⟩
  rw [List.eq_nil_iff_forall_not_mem]
  exact fun f hf => h _ _ _ (.boxOperation hs hf)

/-- **An overlap is reported** where overlaps are looked for: where none is reported, there is none.
-/
theorem disjointAt_of_not_reports {i : Input α} {severity : Severity} {bp : Breakpoint}
    (hpolicy : i.options.overlapPolicy.severity? = some severity)
    (hbp : bp ∈ i.options.overlapBreakpoints) (h : ∀ p q, ¬ i.Reports (.overlap severity bp p q)) :
    i.solution.plan.DisjointAt bp := by
  rw [← overlapsAt_eq_nil_iff, List.eq_nil_iff_forall_not_mem]
  exact fun p hp => h _ _ (.overlap hpolicy hbp hp)

/-! ## Reports of a solve -/

theorem diagnostics_solution (i : Input α) :
    i.solution.diagnostics = (i.layout.stages i.catalog i.options).issues.map Issue.diagnostic :=
  rfl

/-- **A solve reports nothing** exactly when no cause of a report is there. -/
theorem diagnostics_eq_nil_iff {i : Input α} :
    i.solution.diagnostics = [] ↔ ∀ issue, ¬ i.Reports issue := by
  rw [diagnostics_solution, List.map_eq_nil_iff, List.eq_nil_iff_forall_not_mem]
  exact forall_congr' fun issue => not_congr mem_issues_iff

/-- **A solve reports an error** exactly when a cause of an error is there. -/
theorem hasErrors_iff {i : Input α} :
    Diagnostic.hasErrors i.solution.diagnostics = true ↔
      ∃ issue, i.Reports issue ∧ issue.severity = .error := by
  rw [diagnostics_solution, Diagnostic.hasErrors, List.any_map, List.any_eq_true]
  constructor
  · rintro ⟨issue, hissue, herror⟩
    exact ⟨issue, mem_issues_iff.mp hissue, eq_of_beq herror⟩
  · rintro ⟨issue, hissue, herror⟩
    exact ⟨issue, mem_issues_iff.mpr hissue, beq_iff_eq.mpr herror⟩

end Input

end GridLayout
