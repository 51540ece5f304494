import GridLayout.Proofs.Inventory

/-!
# Nothing is assumed, skipped or shifted in silence

A solve comes to an end with whatever it is given, and says what it had to make do with.  So silence
means something: a solve reports nothing exactly when there is nothing to make do with.

`Input.Faultless` is what there has to be, in terms of the input as far as that goes: sizes, ids,
orders and dimensions as they are written, operations as they are carried out, areas as they are put
before the shift to the first line.  Each of its fields answers to one or two causes of reports.

* `Dimension.issues_eq_nil_iff`, `SectionSpec.memberIssues_eq_nil_iff`: when the boxes of a section
  have all the sizes they need.
* `issues_normalizeAt_eq_nil_iff`: when areas need no shift.
* `Input.faultless_of_forall_not_reports`, `Input.Faultless.not_reports`: what is missing is
  reported, and what is reported is missing.
* `Input.diagnostics_eq_nil_iff_faultless`: silence, and what it comes with.
-/

namespace GridLayout

section

variable {α : Type} [Scalar α]

/-! ## Dimensions -/

/-- A look-up in the catalog succeeds when the shape is there with a usable size. -/
theorem Catalog.exists_find_eq_ok_iff {catalog : Catalog α} {shape : String} {box : BoxPlace}
    {bp : Option Breakpoint} {fallback : Coordinate α} :
    (∃ size, catalog.find shape box bp fallback = .ok size) ↔
      ∃ size, catalog shape = some size ∧ isUsableSize size.1 size.2 = true := by
  rw [Catalog.find]
  cases hshape : catalog shape with
  | none => simp
  | some size => cases husable : isUsableSize size.1 size.2 <;> simp [husable]

namespace Dimension

omit [Scalar α] in
/-- The shape that a dimension names at a breakpoint. -/
def shape? : Dimension α → Breakpoint → Option String
  | .uniform shape, _ => some shape
  | .perBreakpoint entries, bp =>
    match entries.lookup bp.name with
    | some (.string shape) => some shape
    | _ => none
  | .malformed _, _ => none

/-- A dimension names at a breakpoint a shape of the catalog, of a size that a box can have. -/
def NamesUsable (d : Dimension α) (catalog : Catalog α) (bp : Breakpoint) : Prop :=
  ∃ shape size, d.shape? bp = some shape ∧ catalog shape = some size ∧
    isUsableSize size.1 size.2 = true

section

variable {d : Dimension α} {bp : Breakpoint} (catalog : Catalog α) (box : BoxPlace)
  (fallback : Coordinate α)

/-- The shape that a dimension names is looked up in the catalog. -/
theorem exists_find_eq {shape : String} (h : d.shape? bp = some shape) :
    ∃ place, d.find catalog box bp fallback = catalog.find shape box place fallback := by
  cases d with
  | uniform name =>
    obtain rfl : name = shape := Option.some.inj h
    exact ⟨none, rfl⟩
  | perBreakpoint entries =>
    rw [shape?] at h
    split at h
    · next name hentry =>
      obtain rfl : name = shape := Option.some.inj h
      refine ⟨some bp, ?_⟩
      simp only [find, entry?, hentry]
    · exact nomatch h
  | malformed raw => exact nomatch h

/-- Without a shape there is no size, and that is the matter. -/
theorem exists_find_eq_error (h : d.shape? bp = none) :
    ∃ issue, d.find catalog box bp fallback = .error issue ∧
      issue.code = .boxShapeMissingBp := by
  cases d with
  | uniform name => exact nomatch h
  | perBreakpoint entries =>
    rw [shape?] at h
    split at h
    · exact nomatch h
    · next hentry =>
      refine ⟨.shapeMissing box bp (entries.lookup bp.name) fallback, ?_, rfl⟩
      simp only [find, entry?]
  | malformed raw => exact ⟨_, rfl, rfl⟩

/-- **A size is found** when the dimension names a usable shape. -/
theorem exists_find_eq_ok_iff :
    (∃ size, d.find catalog box bp fallback = .ok size) ↔ d.NamesUsable catalog bp := by
  rw [NamesUsable]
  cases hshape : d.shape? bp with
  | none =>
    obtain ⟨issue, hissue, -⟩ := exists_find_eq_error catalog box fallback hshape
    simp [hissue]
  | some shape =>
    obtain ⟨place, hfind⟩ := exists_find_eq catalog box fallback hshape
    rw [hfind, Catalog.exists_find_eq_ok_iff]
    simp

end

/-- **Nothing is said about a dimension** that names a usable shape at every breakpoint. -/
theorem issues_eq_nil_iff {d : Dimension α} {catalog : Catalog α} {options : Options α}
    {box : BoxPlace} :
    d.issues catalog options box = [] ↔ ∀ bp, d.NamesUsable catalog bp := by
  have hlookups : d.issues catalog options box = [] ↔
      ∀ bp ∈ d.lookups, d.NamesUsable catalog bp := by
    rw [issues, List.flatMap_eq_nil_iff]
    refine forall₂_congr fun bp _ => ?_
    rw [← exists_find_eq_ok_iff catalog box options.fallback]
    cases d.find catalog box bp options.fallback <;> simp
  rw [hlookups]
  cases d with
  | uniform shape =>
    -- one look-up stands for all, since the name does not depend on the breakpoint
    rw [lookups, List.forall_mem_singleton]
    exact ⟨fun h _ => h, fun h => h .xs⟩
  | perBreakpoint entries => simp [lookups]
  | malformed raw => simp [lookups]

end Dimension

/-- **Nothing is said about the boxes of a section** when each has a dimension that names a usable
shape at every breakpoint. -/
theorem SectionSpec.memberIssues_eq_nil_iff {s : SectionSpec α} {sectionId : String}
    {catalog : Catalog α} {options : Options α} :
    s.memberIssues sectionId catalog options = [] ↔
      ∀ boxId b, s.boxes.get? boxId = some b →
        ∃ d, b.dimension = some d ∧ ∀ bp, d.NamesUsable catalog bp := by
  rw [memberIssues, List.flatMap_eq_nil_iff]
  constructor
  · intro h boxId b hb
    have hbox := h boxId (mem_memberIds.mpr (IdMap.mem_keys_of_get? hb))
    rw [dimension?, hb, Option.bind_some] at hbox
    cases hdim : b.dimension with
    | none =>
      rw [hdim] at hbox
      exact absurd hbox (List.cons_ne_nil _ _)
    | some d =>
      rw [hdim] at hbox
      exact ⟨d, rfl, Dimension.issues_eq_nil_iff.mp hbox⟩
  · intro h boxId hid
    obtain ⟨b, hb⟩ := IdMap.mem_keys.mp (mem_memberIds.mp hid)
    obtain ⟨d, hd, husable⟩ := h boxId b hb
    rw [dimension?, hb, Option.bind_some, hd]
    exact Dimension.issues_eq_nil_iff.mpr husable

end

/-! ## The shift to the first line, in exact numbers -/

section

variable {α : Type} [Scalar α] {bp : Breakpoint} {areas : AreaMap α} {d : GridDimensions α}

omit [Scalar α] in
theorem starts_eq_map_placed (areas : AreaMap α) :
    (areas.values.flatMap fun s => s.values.map GridArea.start) =
      (AreaMap.placed areas).map fun p => p.area.start := by
  rw [AreaMap.placed, List.map_flatMap, IdMap.values, List.flatMap_map]
  refine List.flatMap_congr fun s _ => ?_
  rw [IdMap.values, List.map_map, List.map_map]
  rfl

theorem leastStart?_of_nil (h : AreaMap.placed areas = []) : leastStart? areas = none := by
  rw [leastStart?, starts_eq_map_placed, h]
  rfl

theorem leastStart?_of_cons {p : GridPlan.Placed α} {rest : List (GridPlan.Placed α)}
    (h : AreaMap.placed areas = p :: rest) :
    leastStart? areas =
      some ((rest.map fun q => q.area.start).foldl Coordinate.min p.area.start) := by
  rw [leastStart?, starts_eq_map_placed, h]
  rfl

/-- Without a report nothing is done. -/
theorem normalizeAt_of_issues (h : (normalizeAt bp areas d).issues = []) :
    normalizeAt bp areas d = ⟨areas, d, Coordinate.zero, []⟩ := by
  unfold normalizeAt at h ⊢
  split
  · next hnone =>
    rw [hnone] at h
    exact absurd h (List.cons_ne_nil _ _)
  · next least hleast =>
    rw [hleast] at h
    dsimp only at h
    split
    · rfl
    · next hgrid =>
      rw [if_neg hgrid] at h
      exact absurd h (List.cons_ne_nil _ _)

theorem shift_eq_zero_of_issues (h : (normalizeAt bp areas d).issues = []) :
    (normalizeAt bp areas d).shift = Coordinate.zero := by
  rw [normalizeAt_of_issues h]

end

/-- The least corner is on the grid when all corners are. -/
theorem onGrid_foldl_min_iff {l : List (Coordinate Rat)} {c : Coordinate Rat} :
    onGrid (l.foldl Coordinate.min c) = true ↔ ∀ d ∈ c :: l, 1 ≤ d.x ∧ 1 ≤ d.y := by
  have hleast : ∀ axis, 1 ≤ (l.foldl Coordinate.min c).along axis ↔
      ∀ d ∈ c :: l, 1 ≤ d.along axis := by
    intro axis
    rw [le_isGLB_iff (Coordinate.isLeast_foldl_min l c axis).isGLB, List.forall_mem_cons]
    constructor
    · intro h
      exact ⟨h (Or.inl rfl), fun d hd => h (Or.inr ⟨d, hd, rfl⟩)⟩
    · rintro ⟨hc, hl⟩ v (rfl | ⟨d, hd, rfl⟩)
      · exact hc
      · exact hl d hd
  rw [onGrid, Bool.and_eq_true]
  constructor
  · rintro ⟨hx, hy⟩ d hd
    exact ⟨(hleast .x).mp (of_decide_eq_true hx) d hd, (hleast .y).mp (of_decide_eq_true hy) d hd⟩
  · intro h
    exact ⟨decide_eq_true ((hleast .x).mpr fun d hd => (h d hd).1),
      decide_eq_true ((hleast .y).mpr fun d hd => (h d hd).2)⟩

/-- **Nothing is said about a shift** when there is an area, and none starts before the first line.
-/
theorem issues_normalizeAt_eq_nil_iff {bp : Breakpoint} {areas : AreaMap Rat}
    {d : GridDimensions Rat} :
    (normalizeAt bp areas d).issues = [] ↔ AreaMap.placed areas ≠ [] ∧
      ∀ p ∈ AreaMap.placed areas, 1 ≤ p.area.colStart ∧ 1 ≤ p.area.rowStart := by
  rw [normalizeAt]
  cases hplaced : AreaMap.placed areas with
  | nil => simp [leastStart?_of_nil hplaced]
  | cons p rest =>
    have hgrid := onGrid_foldl_min_iff (l := rest.map fun q => q.area.start) (c := p.area.start)
    have hcorners : (∀ c ∈ p.area.start :: rest.map fun q => q.area.start, 1 ≤ c.x ∧ 1 ≤ c.y) ↔
        ∀ q ∈ p :: rest, 1 ≤ q.area.colStart ∧ 1 ≤ q.area.rowStart :=
      List.forall_mem_map (l := p :: rest) (f := fun q => q.area.start)
    rw [leastStart?_of_cons hplaced, ← hcorners, ← hgrid]
    dsimp only
    split
    · next h => simp [h]
    · next h => simp [h]

/-! ## Silence -/

theorem IdMap.isEmpty_eq_true_iff {β : Type} {m : IdMap β} : m.isEmpty = true ↔ m.keys = [] := by
  rw [isEmpty, List.isEmpty_iff, keys, List.map_eq_nil_iff]

/-- In exact numbers a size is usable when it is above zero on both axes. -/
theorem isUsableSize_rat {width height : Rat} :
    isUsableSize width height = true ↔ 0 < width ∧ 0 < height := by
  simp [isUsableSize]

theorem Dimension.namesUsable_rat {d : Dimension Rat} {catalog : Catalog Rat} {bp : Breakpoint} :
    d.NamesUsable catalog bp ↔ ∃ shape size, d.shape? bp = some shape ∧
      catalog shape = some size ∧ 0 < size.1 ∧ 0 < size.2 := by
  simp only [NamesUsable, isUsableSize_rat]

namespace Input

/-- Nothing has to be assumed, skipped or shifted. -/
structure Faultless (i : Input Rat) : Prop where
  /-- The default size is above zero. -/
  defaultSize : 0 < i.options.defaultSize.1 ∧ 0 < i.options.defaultSize.2
  /-- There is a section. -/
  sections : i.layout.sections.keys ≠ []
  /-- Every section has a box. -/
  boxes : ∀ sectionId s, i.layout.sections.get? sectionId = some s → s.boxes.keys ≠ []
  /-- A section that asks for an order lists its boxes, each once. -/
  order : ∀ sectionId s, i.layout.sections.get? sectionId = some s →
    ∀ reference, s.order = some reference →
      reference.Nodup ∧ ∀ boxId, boxId ∈ reference ↔ boxId ∈ s.boxes.keys
  /-- Every box has a dimension, which names at every breakpoint a shape of the catalog, of a size
  above zero. -/
  dimensions : ∀ sectionId s, i.layout.sections.get? sectionId = some s →
    ∀ boxId b, s.boxes.get? boxId = some b → ∃ d, b.dimension = some d ∧
      ∀ bp, ∃ shape size, d.shape? bp = some shape ∧ i.catalog shape = some size ∧
        0 < size.1 ∧ 0 < size.2
  /-- No operation fails. -/
  operations : ∀ bp, i.OperationsSucceedAt bp
  /-- Before the shift no area starts before the first line. -/
  lines : ∀ bp, ∀ p ∈ AreaMap.placed (unshiftedAt i.arranged i.layout.schedule bp),
    1 ≤ p.area.colStart ∧ 1 ≤ p.area.rowStart
  /-- Overlaps are allowed, or there are none where they are looked for. -/
  overlaps : i.options.overlapPolicy = .allow ∨
    ∀ bp ∈ i.options.overlapBreakpoints, i.solution.plan.DisjointAt bp

variable {i : Input Rat}

/-- The boxes of an arranged section. -/
theorem keys_arranged {sectionId : String} {boxes : LocalBoxes Rat}
    (h : i.arranged.get? sectionId = some boxes) (bp : Breakpoint) :
    ∃ s, i.layout.sections.get? sectionId = some s ∧ (boxes.get bp).keys = s.sizedIds := by
  rw [get?_arranged] at h
  obtain ⟨s, hs, rfl⟩ := Option.map_eq_some_iff.mp h
  refine ⟨s, hs, ?_⟩
  rw [SectionSpec.get_arrange, SectionSpec.keys_outcomeAt]

/-- An area before the shift belongs to a section of the layout. -/
theorem exists_section_of_mem_unshifted {bp : Breakpoint} {p : GridPlan.Placed Rat}
    (hp : p ∈ AreaMap.placed (unshiftedAt i.arranged i.layout.schedule bp)) :
    ∃ s, i.layout.sections.get? p.sectionId = some s := by
  obtain ⟨areas, hareas, -⟩ := AreaMap.mem_placed.mp hp
  rw [get?_unshiftedAt, get?_arranged, Option.map_map] at hareas
  obtain ⟨s, hs, -⟩ := Option.map_eq_some_iff.mp hareas
  exact ⟨s, hs⟩

/-- A box of a layout that has a dimension has an area before the shift. -/
theorem exists_mem_unshifted {sectionId boxId : String} {s : SectionSpec Rat}
    (hs : i.layout.sections.get? sectionId = some s) (hid : boxId ∈ s.sizedIds)
    (bp : Breakpoint) :
    ∃ p, p ∈ AreaMap.placed (unshiftedAt i.arranged i.layout.schedule bp) := by
  rw [← SectionSpec.keys_outcomeAt sectionId i.catalog i.options bp,
    ← SectionSpec.get_arrange] at hid
  obtain ⟨b, hb⟩ := IdMap.mem_keys.mp hid
  refine ⟨⟨sectionId, boxId, GridArea.ofBox
    ((placementAt i.arranged i.layout.schedule bp).carry sectionId b)⟩, ?_⟩
  rw [AreaMap.mem_placed, get?_unshiftedAt, get?_arranged_of_some hs]
  refine ⟨_, rfl, ?_⟩
  rw [IdMap.get?_map, hb]
  rfl

/-- **What is missing is reported.** -/
theorem faultless_of_forall_not_reports (h : ∀ issue, ¬ i.Reports issue) : i.Faultless := by
  have hshift : ∀ bp, (normalizeAt bp (unshiftedAt i.arranged i.layout.schedule bp)
      (placementAt i.arranged i.layout.schedule bp).dimensions).issues = [] := fun bp =>
    List.eq_nil_iff_forall_not_mem.mpr fun issue hissue => h issue (.shift hissue)
  constructor
  case defaultSize =>
    cases hdefault : i.options.hasUsableDefault with
    | false => exact absurd (.fallback hdefault) (h _)
    | true => exact isUsableSize_rat.mp hdefault
  case sections =>
    have hplaced := (issues_normalizeAt_eq_nil_iff.mp (hshift .xs)).1
    obtain ⟨p, hp⟩ := List.exists_mem_of_ne_nil _ hplaced
    obtain ⟨s, hs⟩ := exists_section_of_mem_unshifted hp
    exact List.ne_nil_of_mem (IdMap.mem_keys_of_get? hs)
  case boxes =>
    intro sectionId s hs hnone
    have hsized : s.sizedIds = [] := by
      rw [List.eq_nil_iff_forall_not_mem]
      intro boxId hid
      obtain ⟨b, -, hb, -⟩ := SectionSpec.mem_sizedIds.mp hid
      have hkey := IdMap.mem_keys_of_get? hb
      rw [hnone] at hkey
      exact List.not_mem_nil hkey
    refine h (.sectionEmpty sectionId .xs) (.emptySection (get?_arranged_of_some hs) ?_)
    rw [IdMap.isEmpty_eq_true_iff, SectionSpec.get_arrange, SectionSpec.keys_outcomeAt, hsized]
  case order =>
    intro sectionId s hs
    have horder : (s.orderIssues sectionId : List (Issue Rat)) = [] :=
      List.eq_nil_iff_forall_not_mem.mpr fun issue hissue => h issue (.order hs hissue)
    exact SectionSpec.orderIssues_eq_nil_iff.mp horder
  case dimensions =>
    intro sectionId s hs boxId b hb
    have hmember : s.memberIssues sectionId i.catalog i.options = [] :=
      List.eq_nil_iff_forall_not_mem.mpr fun issue hissue => h issue (.member hs hissue)
    obtain ⟨d, hd, husable⟩ := SectionSpec.memberIssues_eq_nil_iff.mp hmember boxId b hb
    exact ⟨d, hd, fun bp => Dimension.namesUsable_rat.mp (husable bp)⟩
  case operations => exact operationsSucceedAt_of_not_reports fun _ _ _ => h _
  case lines => exact fun bp => (issues_normalizeAt_eq_nil_iff.mp (hshift bp)).2
  case overlaps =>
    have haudit : ∀ severity, i.options.overlapPolicy.severity? = some severity →
        ∀ bp ∈ i.options.overlapBreakpoints, i.solution.plan.DisjointAt bp :=
      fun _ hseverity _ hbp => disjointAt_of_not_reports hseverity hbp fun _ _ => h _
    cases hpolicy : i.options.overlapPolicy with
    | allow => exact Or.inl rfl
    | warn => exact Or.inr (haudit .warning (by rw [hpolicy]; rfl))
    | error => exact Or.inr (haudit .error (by rw [hpolicy]; rfl))

namespace Faultless

/-- Every box of a faultless layout has a dimension. -/
theorem mem_sizedIds (h : i.Faultless) {sectionId boxId : String} {s : SectionSpec Rat}
    (hs : i.layout.sections.get? sectionId = some s) (hid : boxId ∈ s.boxes.keys) :
    boxId ∈ s.sizedIds := by
  obtain ⟨b, hb⟩ := IdMap.mem_keys.mp hid
  obtain ⟨d, hd, -⟩ := h.dimensions sectionId s hs boxId b hb
  exact SectionSpec.mem_sizedIds.mpr ⟨b, d, hb, hd⟩

/-- A faultless layout has an area at every breakpoint. -/
theorem placed_ne_nil (h : i.Faultless) (bp : Breakpoint) :
    AreaMap.placed (unshiftedAt i.arranged i.layout.schedule bp) ≠ [] := by
  obtain ⟨sectionId, hsection⟩ := List.exists_mem_of_ne_nil _ h.sections
  obtain ⟨s, hs⟩ := IdMap.mem_keys.mp hsection
  obtain ⟨boxId, hid⟩ := List.exists_mem_of_ne_nil _ (h.boxes sectionId s hs)
  obtain ⟨p, hp⟩ := exists_mem_unshifted hs (h.mem_sizedIds hs hid) bp
  exact List.ne_nil_of_mem hp

/-- No shift of a faultless layout is reported. -/
theorem issues_normalizeAt (h : i.Faultless) (bp : Breakpoint) :
    (normalizeAt bp (unshiftedAt i.arranged i.layout.schedule bp)
      (placementAt i.arranged i.layout.schedule bp).dimensions).issues = [] :=
  issues_normalizeAt_eq_nil_iff.mpr ⟨h.placed_ne_nil bp, h.lines bp⟩

/-- **What is reported is missing.** -/
theorem not_reports (h : i.Faultless) (issue : Issue Rat) : ¬ i.Reports issue := by
  intro hreport
  cases hreport with
  | fallback hdefault =>
    have husable : i.options.hasUsableDefault = true := isUsableSize_rat.mpr h.defaultSize
    rw [husable] at hdefault
    exact nomatch hdefault
  | order hs hissue =>
    rw [SectionSpec.orderIssues_eq_nil_iff.mpr (h.order _ _ hs)] at hissue
    exact List.not_mem_nil hissue
  | @member sectionId s _ hs hissue =>
    have hnone : s.memberIssues sectionId i.catalog i.options = [] := by
      rw [SectionSpec.memberIssues_eq_nil_iff]
      intro boxId b hb
      obtain ⟨d, hd, hshapes⟩ := h.dimensions sectionId s hs boxId b hb
      exact ⟨d, hd, fun bp => Dimension.namesUsable_rat.mpr (hshapes bp)⟩
    rw [hnone] at hissue
    exact List.not_mem_nil hissue
  | @boxOperation sectionId s bp f hs hf =>
    rw [(operationsSucceedAt_iff.mp (h.operations bp)).1 sectionId s hs] at hf
    exact List.not_mem_nil hf
  | @emptySection sectionId boxes bp hs hempty =>
    obtain ⟨s, hs, hkeys⟩ := keys_arranged hs bp
    obtain ⟨boxId, hid⟩ := List.exists_mem_of_ne_nil _ (h.boxes sectionId s hs)
    have hsized := h.mem_sizedIds hs hid
    rw [← hkeys, IdMap.isEmpty_eq_true_iff.mp hempty] at hsized
    exact List.not_mem_nil hsized
  | @sectionOperation bp f hf =>
    rw [(operationsSucceedAt_iff.mp (h.operations bp)).2] at hf
    exact List.not_mem_nil hf
  | @shift bp _ hissue =>
    rw [h.issues_normalizeAt bp] at hissue
    exact List.not_mem_nil hissue
  | @overlap severity bp p hpolicy hbp hp =>
    rcases h.overlaps with hallow | hdisjoint
    · rw [hallow] at hpolicy
      exact nomatch hpolicy
    · rw [overlapsAt_eq_nil_iff.mpr (hdisjoint bp hbp)] at hp
      exact List.not_mem_nil hp

end Faultless

/-- **Silence.**  A solve reports nothing exactly when nothing has to be assumed, skipped or
shifted.  Then every box of the layout is published at every breakpoint, and nothing is shifted at
any. -/
theorem diagnostics_eq_nil_iff_faultless (i : Input Rat) :
    (i.solution.diagnostics = [] ↔ i.Faultless) ∧
      (i.solution.diagnostics = [] →
        (∀ sectionId s boxId, i.layout.sections.get? sectionId = some s → boxId ∈ s.boxes.keys →
          ∀ bp, ∃ area, i.solution.plan.area? sectionId bp boxId = some area) ∧
        ∀ bp, i.solution.plan.normalization.get bp = Coordinate.zero) := by
  have hiff : i.solution.diagnostics = [] ↔ i.Faultless := by
    rw [diagnostics_eq_nil_iff]
    exact ⟨faultless_of_forall_not_reports, Faultless.not_reports⟩
  refine ⟨hiff, fun hsilent => ?_⟩
  have hfaultless := hiff.mp hsilent
  constructor
  · intro sectionId s boxId hs hid bp
    obtain ⟨areas, hareas, hkeys⟩ := i.exists_published hs
    have hlisted : boxId ∈ (areas.get bp).keys := by
      rw [hkeys bp]
      exact hfaultless.mem_sizedIds hs hid
    obtain ⟨area, harea⟩ := IdMap.mem_keys.mp hlisted
    refine ⟨area, ?_⟩
    rw [GridPlan.area?, hareas, Option.bind_some]
    exact harea
  · intro bp
    rw [solution, solve_plan, normalization_assemble, gridAt_eq]
    exact shift_eq_zero_of_issues (hfaultless.issues_normalizeAt bp)

/-- Two sections side by side, with nothing to complain about. -/
def tidy : Input Rat where
  layout := {
    sections := IdMap.ofList [
      ("s", ⟨IdMap.ofList [("a", ⟨some (.uniform "wide")⟩),
          ("b", ⟨some (.perBreakpoint [("xs", .string "unit"), ("sm", .string "unit"),
            ("md", .string "tall"), ("lg", .string "tall"), ("xl", .string "wide")])⟩)],
        some (.uniform [.stacked .y 1]), some ["b", "a"]⟩),
      ("t", ⟨IdMap.ofList [("c", ⟨some (.uniform "tall")⟩)], none, none⟩)]
    schedule := some (.uniform [.stacked .x 0, .moveBy (.valid ⟨"s"⟩) (.vector ⟨1, 1⟩) none,
      .moveBy (.valid ⟨"t"⟩) (.uniform 2) none]) }
  catalog := threeShapes
  options := ⟨.error, Breakpoint.all, (2, 1)⟩

theorem tidy_faultless :
    tidy.solution.diagnostics = [] ∧ tidy.Faultless ∧
      (∃ area, tidy.solution.plan.area? "s" .md "a" = some area) ∧
      tidy.solution.plan.normalization.get .md = Coordinate.zero := by
  have hsilent : tidy.solution.diagnostics = [] := List.isEmpty_iff.mp (by decide +kernel)
  obtain ⟨hiff, hpublished⟩ := diagnostics_eq_nil_iff_faultless tidy
  obtain ⟨harea, hshift⟩ := hpublished hsilent
  exact ⟨hsilent, hiff.mp hsilent, harea "s" _ "a" rfl (by decide) .md, hshift .md⟩

end Input

end GridLayout
