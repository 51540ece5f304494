import GridLayout.Proofs.FirstOccurrences
import GridLayout.Proofs.GridLines
import GridLayout.Proofs.Overlaps
import Mathlib.Algebra.Order.Field.Basic
import Mathlib.Data.List.Sym
import Mathlib.Order.Interval.Set.Basic

/-!
# What the overlap audit reports

The audit runs over the boxes of a breakpoint in their order and compares each with those after it.
Who comes first is of no account to the reader of the reports: an overlap is one of an unordered
pair of boxes, and a box is known by its section and its own id.  Read so, the reports of a
breakpoint are the overlaps there, each once.

The test is four comparisons of lines.  For areas with an inside, it holds exactly when some point
is inside both.

* `mk_mem_map_pairs`, `nodup_map_pairs`: the pairs of a list without repetitions, unordered.
* `GridPlan.OverlapAt`: two boxes of a plan overlap at a breakpoint.
* `listsOverlapsAt_overlapsAt`: the audit of a breakpoint lists the overlaps there.
* `GridArea.intersects_iff_interior`, `GridArea.intersects_eq_false_of_touch`: the test, in exact
  numbers.
* `overlapIssues_audit`: the audit of a plan.
-/

namespace GridLayout

/-! ## Unordered pairs -/

section

variable {β : Type} {l : List β}

theorem map_pairs_sublist_sym2 (l : List β) :
    ((pairs l).map fun p => s(p.1, p.2)).Sublist l.sym2 := by
  induction l with
  | nil => exact List.Sublist.refl _
  | cons a rest ih =>
    rw [pairs, List.map_append, List.map_map, List.sym2, List.map_cons, List.cons_append]
    exact ((List.Sublist.refl _).append ih).cons _

/-- A list without repetitions has every unordered pair once. -/
theorem nodup_map_pairs (hl : l.Nodup) : ((pairs l).map fun p => s(p.1, p.2)).Nodup :=
  hl.sym2.sublist (map_pairs_sublist_sym2 l)

/-- **The pairs of a list without repetitions** are those of two different members. -/
theorem mk_mem_map_pairs (hl : l.Nodup) {a b : β} :
    s(a, b) ∈ (pairs l).map (fun p => s(p.1, p.2)) ↔ a ∈ l ∧ b ∈ l ∧ a ≠ b := by
  induction l with
  | nil => simp [pairs]
  | cons head rest ih =>
    rw [List.nodup_cons] at hl
    rw [pairs, List.map_append, List.map_map, List.mem_append, ih hl.2, List.mem_map]
    constructor
    · rintro (⟨c, hc, heq⟩ | ⟨ha, hb, hne⟩)
      · have hne : head ≠ c := fun h => hl.1 (h ▸ hc)
        rcases Sym2.eq_iff.mp heq with ⟨rfl, rfl⟩ | ⟨rfl, rfl⟩
        · exact ⟨List.mem_cons_self, List.mem_cons_of_mem _ hc, hne⟩
        · exact ⟨List.mem_cons_of_mem _ hc, List.mem_cons_self, hne.symm⟩
      · exact ⟨List.mem_cons_of_mem _ ha, List.mem_cons_of_mem _ hb, hne⟩
    · rintro ⟨ha, hb, hne⟩
      rcases List.mem_cons.mp ha with rfl | ha'
      · exact Or.inl ⟨b, (List.mem_cons.mp hb).resolve_left hne.symm, rfl⟩
      · rcases List.mem_cons.mp hb with rfl | hb'
        · exact Or.inl ⟨a, ha', Sym2.eq_swap⟩
        · exact Or.inr ⟨ha', hb', hne⟩

end

/-! ## Boxes of a plan -/

section

variable {α : Type}

/-- The box that is placed. -/
def GridPlan.Placed.place (p : GridPlan.Placed α) : BoxPlace := ⟨p.sectionId, p.boxId⟩

/-- The boxes of a plan at a breakpoint are those that have an area there. -/
theorem GridPlan.mem_placedAt_iff_area? {plan : GridPlan α} {bp : Breakpoint} {p : Placed α} :
    p ∈ plan.placedAt bp ↔ plan.area? p.sectionId bp p.boxId = some p.area := by
  rw [placedAt_eq, AreaMap.mem_placed, sliceAt, IdMap.get?_map, area?, Option.bind_eq_some_iff]
  simp only [Option.map_eq_some_iff, exists_exists_and_eq_and]

/-- A box is placed at most once. -/
theorem GridPlan.placed_eq_of_place {plan : GridPlan α} {bp : Breakpoint} {p q : Placed α}
    (hp : p ∈ plan.placedAt bp) (hq : q ∈ plan.placedAt bp) (h : p.place = q.place) : p = q := by
  rw [mem_placedAt_iff_area?] at hp hq
  obtain ⟨hsection, hbox⟩ := BoxPlace.mk.inj h
  rw [hsection, hbox, hq] at hp
  cases p
  cases q
  cases hsection
  cases hbox
  cases Option.some.inj hp
  rfl

theorem GridPlan.nodup_places (plan : GridPlan α) (bp : Breakpoint) :
    ((plan.placedAt bp).map Placed.place).Nodup :=
  (plan.nodup_placedAt bp).map_on fun _ hp _ hq => placed_eq_of_place hp hq

/-! ## The audit of a breakpoint -/

variable [Scalar α]

/-- Two different boxes of a plan overlap at a breakpoint. -/
def GridPlan.OverlapAt (plan : GridPlan α) (bp : Breakpoint) (a b : BoxPlace) : Prop :=
  a ≠ b ∧ ∃ areaA areaB, plan.area? a.sectionId bp a.boxId = some areaA ∧
    plan.area? b.sectionId bp b.boxId = some areaB ∧ areaA.intersects areaB = true

theorem GridPlan.OverlapAt.symm {plan : GridPlan α} {bp : Breakpoint} {a b : BoxPlace}
    (h : plan.OverlapAt bp a b) : plan.OverlapAt bp b a := by
  obtain ⟨hne, areaA, areaB, ha, hb, hover⟩ := h
  exact ⟨hne.symm, areaB, areaA, hb, ha, (GridArea.intersects_comm areaB areaA).trans hover⟩

omit [Scalar α] in
/-- The two boxes of a pair, in no order. -/
def boxesOf (p : GridPlan.Placed α × GridPlan.Placed α) : Sym2 BoxPlace := s(p.1.place, p.2.place)

/-- Some pairs of placed boxes are the overlaps of a plan at a breakpoint, each once. -/
structure GridPlan.ListsOverlapsAt (plan : GridPlan α) (bp : Breakpoint)
    (found : List (GridPlan.Placed α × GridPlan.Placed α)) : Prop where
  placed : ∀ p ∈ found, p.1 ∈ plan.placedAt bp ∧ p.2 ∈ plan.placedAt bp
  once : (found.map boxesOf).Nodup
  mem_iff : ∀ a b, s(a, b) ∈ found.map boxesOf ↔ plan.OverlapAt bp a b

theorem mem_overlapsAt {plan : GridPlan α} {bp : Breakpoint}
    {p : GridPlan.Placed α × GridPlan.Placed α} :
    p ∈ overlapsAt plan bp ↔
      p ∈ pairs (plan.placedAt bp) ∧ p.1.area.intersects p.2.area = true := List.mem_filter

/-- A pair that the audit finds overlaps. -/
theorem overlapAt_of_mem {plan : GridPlan α} {bp : Breakpoint}
    {p : GridPlan.Placed α × GridPlan.Placed α} (h : p ∈ overlapsAt plan bp) :
    p.1 ∈ plan.placedAt bp ∧ p.2 ∈ plan.placedAt bp ∧
      plan.OverlapAt bp p.1.place p.2.place := by
  obtain ⟨hpair, hover⟩ := mem_overlapsAt.mp h
  obtain ⟨h₁, h₂, hne⟩ :=
    (mk_mem_map_pairs (plan.nodup_placedAt bp)).mp (List.mem_map_of_mem hpair)
  refine ⟨h₁, h₂, fun hplace => hne (GridPlan.placed_eq_of_place h₁ h₂ hplace), ?_⟩
  exact ⟨p.1.area, p.2.area, GridPlan.mem_placedAt_iff_area?.mp h₁,
    GridPlan.mem_placedAt_iff_area?.mp h₂, hover⟩

/-- Boxes that overlap are found, in one order or the other. -/
theorem mem_map_boxesOf_of_overlapAt {plan : GridPlan α} {bp : Breakpoint} {a b : BoxPlace}
    (h : plan.OverlapAt bp a b) : s(a, b) ∈ (overlapsAt plan bp).map boxesOf := by
  obtain ⟨hne, areaA, areaB, ha, hb, hover⟩ := h
  have hpair := (mk_mem_map_pairs (plan.nodup_placedAt bp)
    (a := ⟨a.sectionId, a.boxId, areaA⟩) (b := ⟨b.sectionId, b.boxId, areaB⟩)).mpr
    ⟨GridPlan.mem_placedAt_iff_area?.mpr ha, GridPlan.mem_placedAt_iff_area?.mpr hb,
      fun heq => hne (congrArg GridPlan.Placed.place heq)⟩
  obtain ⟨⟨p, q⟩, hmem, heq⟩ := List.mem_map.mp hpair
  rcases Sym2.eq_iff.mp heq with ⟨rfl, rfl⟩ | ⟨rfl, rfl⟩
  · exact List.mem_map.mpr ⟨_, mem_overlapsAt.mpr ⟨hmem, hover⟩, rfl⟩
  · rw [GridArea.intersects_comm] at hover
    exact List.mem_map.mpr ⟨_, mem_overlapsAt.mpr ⟨hmem, hover⟩, Sym2.eq_swap⟩

/-- **The audit of a breakpoint lists the overlaps there**: every pair of boxes that overlap is
found, in one order only, and no other pair is. -/
theorem listsOverlapsAt_overlapsAt (plan : GridPlan α) (bp : Breakpoint) :
    plan.ListsOverlapsAt bp (overlapsAt plan bp) where
  placed _ hp := ⟨(overlapAt_of_mem hp).1, (overlapAt_of_mem hp).2.1⟩
  once := by
    have hplaces := nodup_map_pairs (plan.nodup_places bp)
    rw [pairs_map, List.map_map] at hplaces
    exact hplaces.sublist (List.filter_sublist.map _)
  mem_iff a b := by
    refine ⟨fun h => ?_, mem_map_boxesOf_of_overlapAt⟩
    obtain ⟨p, hp, heq⟩ := List.mem_map.mp h
    obtain ⟨-, -, hover⟩ := overlapAt_of_mem hp
    rcases Sym2.eq_iff.mp heq with ⟨rfl, rfl⟩ | ⟨rfl, rfl⟩
    · exact hover
    · exact hover.symm

end

/-! ## The test, in exact numbers -/

namespace GridArea

variable {a b : GridArea Rat}

/-- An area has an inside: on both axes it ends after it starts. -/
def Proper (a : GridArea Rat) : Prop := ∀ axis, a.start.along axis < a.finish.along axis

/-- The points inside an area.  Its edges are not. -/
def interior (a : GridArea Rat) : Set (Coordinate Rat) :=
  {p | ∀ axis, p.along axis ∈ Set.Ioo (a.start.along axis) (a.finish.along axis)}

theorem intersects_iff_along :
    a.intersects b = true ↔ ∀ axis, a.start.along axis < b.finish.along axis ∧
      b.start.along axis < a.finish.along axis := by
  simp only [intersects, Scalar.lt_rat, Bool.and_eq_true, decide_eq_true_iff]
  constructor
  · rintro ⟨⟨⟨hx, hx'⟩, hy⟩, hy'⟩ axis
    cases axis with
    | x => exact ⟨hx, hx'⟩
    | y => exact ⟨hy, hy'⟩
  · intro h
    exact ⟨⟨⟨(h .x).1, (h .x).2⟩, (h .y).1⟩, (h .y).2⟩

/-- **Two areas overlap exactly when some point is inside both.** -/
theorem intersects_iff_interior (ha : a.Proper) (hb : b.Proper) :
    a.intersects b = true ↔ (a.interior ∩ b.interior).Nonempty := by
  rw [intersects_iff_along]
  constructor
  · intro h
    -- an axis at a time: the later start comes before the earlier end
    have haxis : ∀ axis, ∃ v, v ∈ Set.Ioo (a.start.along axis) (a.finish.along axis) ∧
        v ∈ Set.Ioo (b.start.along axis) (b.finish.along axis) := by
      intro axis
      have hlt : Max.max (a.start.along axis) (b.start.along axis) <
          Min.min (a.finish.along axis) (b.finish.along axis) :=
        max_lt (lt_min (ha axis) (h axis).1) (lt_min (h axis).2 (hb axis))
      obtain ⟨v, hv⟩ := Set.nonempty_Ioo.mpr hlt
      rw [← Set.Ioo_inter_Ioo] at hv
      exact ⟨v, hv⟩
    obtain ⟨x, hx⟩ := haxis .x
    obtain ⟨y, hy⟩ := haxis .y
    refine ⟨⟨x, y⟩, fun axis => ?_, fun axis => ?_⟩
    · cases axis with
      | x => exact hx.1
      | y => exact hy.1
    · cases axis with
      | x => exact hx.2
      | y => exact hy.2
  · rintro ⟨p, hpa, hpb⟩ axis
    exact ⟨(hpa axis).1.trans (hpb axis).2, (hpb axis).1.trans (hpa axis).2⟩

/-- **Areas that only touch do not overlap**: it is enough that on one axis one of them ends where
the other starts, or before. -/
theorem intersects_eq_false_of_touch {axis : Axis}
    (h : a.finish.along axis ≤ b.start.along axis ∨ b.finish.along axis ≤ a.start.along axis) :
    a.intersects b = false := by
  rw [Bool.eq_false_iff, ne_eq, intersects_iff_along]
  intro hover
  rcases h with h | h
  · exact absurd (hover axis).2 h.not_gt
  · exact absurd (hover axis).1 h.not_gt

end GridArea

/-! ## The audit of a plan -/

section

variable {α : Type} [Scalar α]

/-- The report of two overlapping boxes. -/
def overlapReport (severity : Severity) (bp : Breakpoint)
    (p : GridPlan.Placed α × GridPlan.Placed α) : Diagnostic α :=
  (Issue.overlap severity bp p.1 p.2).diagnostic

/-- Reports of the overlaps of a plan, all of one severity.  The breakpoints come in the order in
which they are first asked for, and each of them with one report for every overlap. -/
def GridPlan.OverlapsReported (plan : GridPlan α) (breakpoints : List Breakpoint)
    (severity : Severity) (reports : List (Diagnostic α)) : Prop :=
  ∃ (asked : List Breakpoint)
    (found : Breakpoint → List (GridPlan.Placed α × GridPlan.Placed α)),
    FirstOccurrences breakpoints (fun _ => True) asked ∧
      (∀ bp, plan.ListsOverlapsAt bp (found bp)) ∧
      reports = (asked.flatMap fun bp => (found bp).map (overlapReport severity bp)) ∧
      ∀ bp, ∀ report ∈ (found bp).map (overlapReport severity bp),
        report.code = .overlapNotAllowed ∧ report.severity = severity ∧
          report.breakpoint? = some bp

theorem overlapsReported_of_severity (plan : GridPlan α) (breakpoints : List Breakpoint)
    {policy : OverlapPolicy} {severity : Severity} (h : policy.severity? = some severity) :
    plan.OverlapsReported breakpoints severity
      ((overlapIssues plan breakpoints policy).map Issue.diagnostic) := by
  refine ⟨distinctBreakpoints breakpoints, overlapsAt plan,
    firstOccurrences_distinctBreakpoints breakpoints, listsOverlapsAt_overlapsAt plan, ?_, ?_⟩
  · rw [overlapIssues, h]
    dsimp only
    rw [List.map_flatMap]
    refine List.flatMap_congr fun bp _ => ?_
    rw [List.map_map]
    rfl
  · intro bp report hreport
    obtain ⟨p, -, rfl⟩ := List.mem_map.mp hreport
    exact ⟨rfl, rfl, Issue.breakpoint?_diagnostic _⟩

/-- **The audit is sound and complete.**  It says nothing where overlaps are allowed, and otherwise
reports every overlap at every breakpoint that is asked for, once, and nothing else.  In exact
numbers, two areas with an inside overlap exactly when some point is inside both; which of them
comes first makes no difference, and areas that meet at an edge or a corner only do not overlap. -/
theorem overlapIssues_audit (plan : GridPlan α) (breakpoints : List Breakpoint) :
    (overlapIssues plan breakpoints .allow).map Issue.diagnostic = [] ∧
      plan.OverlapsReported breakpoints .warning
        ((overlapIssues plan breakpoints .warn).map Issue.diagnostic) ∧
      plan.OverlapsReported breakpoints .error
        ((overlapIssues plan breakpoints .error).map Issue.diagnostic) ∧
      ∀ a b : GridArea Rat, a.Proper → b.Proper →
        (a.intersects b = true ↔ (a.interior ∩ b.interior).Nonempty) ∧
          a.intersects b = b.intersects a ∧
          ∀ axis, a.finish.along axis = b.start.along axis ∨
            b.finish.along axis = a.start.along axis → a.intersects b = false :=
  ⟨rfl, overlapsReported_of_severity plan breakpoints rfl,
    overlapsReported_of_severity plan breakpoints rfl, fun a b ha hb =>
      ⟨GridArea.intersects_iff_interior ha hb, GridArea.intersects_comm a b, fun _ h =>
        GridArea.intersects_eq_false_of_touch (h.imp le_of_eq le_of_eq)⟩⟩

end

/-- A wide box and a tall box that cross, a small one inside both, and one that touches the wide box
at a corner, in two sections. -/
def crossing : GridPlan Rat where
  sections := IdMap.ofList [
    ("bars", Bps.splat (IdMap.ofList [("wide", ⟨1, 7, 3, 5⟩), ("tall", ⟨3, 5, 1, 7⟩)])),
    ("dots", Bps.splat (IdMap.ofList [("inside", ⟨3, 4, 3, 4⟩), ("corner", ⟨7, 8, 5, 6⟩)]))]
  dimensions := Bps.splat ⟨8, 7⟩
  normalization := Bps.splat ⟨0, 0⟩

theorem crossing_audit :
    GridArea.Proper ⟨1, 7, 3, 5⟩ ∧ GridArea.Proper ⟨7, 8, 5, 6⟩ ∧
      crossing.OverlapsReported [.md, .xs, .md] .error
        ((overlapIssues crossing [.md, .xs, .md] .error).map Issue.diagnostic) ∧
      GridArea.intersects (⟨1, 7, 3, 5⟩ : GridArea Rat) ⟨7, 8, 5, 6⟩ = false := by
  have hwide : GridArea.Proper ⟨1, 7, 3, 5⟩ := by
    intro axis
    cases axis <;> decide
  have hcorner : GridArea.Proper ⟨7, 8, 5, 6⟩ := by
    intro axis
    cases axis <;> decide
  obtain ⟨-, -, hreported, hareas⟩ := overlapIssues_audit crossing [.md, .xs, .md]
  exact ⟨hwide, hcorner, hreported, (hareas _ _ hwide hcorner).2.2 .x (Or.inl rfl)⟩

end GridLayout
