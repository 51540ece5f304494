import GridLayout.Proofs.Breakpoints
import Mathlib.Data.List.Nodup
import Mathlib.Data.List.Pairwise

/-!
# What the overlap audit finds

The audit goes through the boxes of a breakpoint in their order and compares each with those that
come after it.  `GridPlan.DisjointAt` speaks of any two boxes, in whatever order.  The two agree,
because no box is listed twice and because it makes no difference which of two areas comes first.

* `GridArea.intersects_comm`: overlapping is mutual, over any numbers.
* `GridPlan.nodup_placedAt`: every box of a breakpoint is listed once.
* `overlapsAt_eq_nil_iff`: the audit of a breakpoint finds nothing exactly when no two boxes
  overlap there.
* `mem_overlapIssues`: what the audit of several breakpoints reports.
* `atBreakpoint_overlapIssues_eq_nil`: it reports nothing about a breakpoint without overlaps.
-/

namespace GridLayout

variable {α : Type}

/-! ## Pairs -/

/-- The pairs of changed members are the changed pairs. -/
theorem pairs_map {β γ : Type} (f : β → γ) (l : List β) :
    pairs (l.map f) = (pairs l).map (Prod.map f f) := by
  induction l with
  | nil => rfl
  | cons a rest ih =>
    rw [List.map_cons, pairs, ih, pairs, List.map_append, List.map_map, List.map_map]
    rfl

/-! ## Boxes of a breakpoint -/

/-- The boxes of the areas of one breakpoint are listed once each: a section has its own id in every
one of its boxes, and no id occurs twice in it. -/
theorem AreaMap.nodup_placed (areas : AreaMap α) : (AreaMap.placed areas).Nodup := by
  rw [AreaMap.placed, List.nodup_flatMap]
  constructor
  · intro s _
    have hids : (s.2.entries.map fun b => b.1).Nodup := s.2.nodup
    refine List.Nodup.of_map GridPlan.Placed.boxId ?_
    rw [List.map_map]
    exact hids
  · have hids : areas.entries.Pairwise fun s t => s.1 ≠ t.1 := List.pairwise_map.mp areas.nodup
    refine hids.imp fun hne => ?_
    intro p hp hq
    obtain ⟨b, -, rfl⟩ := List.mem_map.mp hp
    obtain ⟨c, -, hc⟩ := List.mem_map.mp hq
    exact hne (congrArg GridPlan.Placed.sectionId hc).symm

/-- **Every box of a breakpoint is listed once.** -/
theorem GridPlan.nodup_placedAt (plan : GridPlan α) (bp : Breakpoint) :
    (plan.placedAt bp).Nodup := by
  rw [placedAt_eq]
  exact AreaMap.nodup_placed _

variable [Scalar α]

/-! ## Disjoint areas -/

/-- **Overlapping is mutual.** -/
theorem GridArea.intersects_comm (a b : GridArea α) : a.intersects b = b.intersects a := by
  rw [intersects, intersects, Bool.and_comm (Scalar.lt a.colStart b.colEnd), Bool.and_assoc,
    Bool.and_assoc, Bool.and_comm (Scalar.lt a.rowStart b.rowEnd)]
  simp only [Bool.and_assoc]

/-- No two boxes of a plan overlap at a breakpoint. -/
def GridPlan.DisjointAt (plan : GridPlan α) (bp : Breakpoint) : Prop :=
  ∀ p ∈ plan.placedAt bp, ∀ q ∈ plan.placedAt bp, p ≠ q → p.area.intersects q.area = false

/-- No two boxes overlap exactly when no box overlaps a later one. -/
theorem GridPlan.disjointAt_iff_pairwise {plan : GridPlan α} {bp : Breakpoint} :
    plan.DisjointAt bp ↔
      (plan.placedAt bp).Pairwise fun p q => p.area.intersects q.area = false := by
  constructor
  · intro h
    exact (plan.nodup_placedAt bp).pairwise_of_forall_ne h
  · intro h p hp q hq hne
    have hsymm : Std.Symm fun p q : Placed α => p.area.intersects q.area = false :=
      ⟨fun a b hab => (GridArea.intersects_comm b.area a.area).trans hab⟩
    exact h.forall hp hq hne

/-- Out of all pairs of a list none passes a test exactly when the test fails pairwise. -/
theorem filter_pairs_eq_nil_iff {β : Type} {test : β × β → Bool} {l : List β} :
    (pairs l).filter test = [] ↔ l.Pairwise fun a b => test (a, b) = false := by
  induction l with
  | nil => simp [pairs]
  | cons a rest ih =>
    rw [pairs, List.filter_append, List.append_eq_nil_iff, ih, List.pairwise_cons,
      List.filter_eq_nil_iff]
    simp

/-- **The audit of a breakpoint finds nothing** exactly when no two boxes overlap there. -/
theorem overlapsAt_eq_nil_iff {plan : GridPlan α} {bp : Breakpoint} :
    overlapsAt plan bp = [] ↔ plan.DisjointAt bp := by
  rw [overlapsAt, filter_pairs_eq_nil_iff, GridPlan.disjointAt_iff_pairwise]

/-! ## Reports -/

/-- **What the audit reports**: at every breakpoint that is asked for the pairs that overlap, each
as serious as the policy says, and nothing where overlaps are allowed. -/
theorem mem_overlapIssues {plan : GridPlan α} {breakpoints : List Breakpoint}
    {policy : OverlapPolicy} {issue : Issue α} :
    issue ∈ overlapIssues plan breakpoints policy ↔
      ∃ severity bp p, policy.severity? = some severity ∧ bp ∈ breakpoints ∧
        p ∈ overlapsAt plan bp ∧ issue = .overlap severity bp p.1 p.2 := by
  rw [overlapIssues]
  cases hseverity : policy.severity? with
  | none => simp
  | some severity =>
    simp only [List.mem_flatMap, mem_distinctBreakpoints, List.mem_map, Option.some.injEq]
    constructor
    · rintro ⟨bp, hbp, p, hp, rfl⟩
      exact ⟨severity, bp, p, rfl, hbp, hp, rfl⟩
    · rintro ⟨_, bp, p, rfl, hbp, hp, rfl⟩
      exact ⟨bp, hbp, p, hp, rfl⟩

/-- **Where no two boxes overlap, nothing is reported**, whatever the audit is asked for. -/
theorem atBreakpoint_overlapIssues_eq_nil {plan : GridPlan α} {bp : Breakpoint}
    (h : plan.DisjointAt bp) (breakpoints : List Breakpoint) (policy : OverlapPolicy) :
    Diagnostic.atBreakpoint ((overlapIssues plan breakpoints policy).map Issue.diagnostic) bp =
      [] := by
  rw [Issue.atBreakpoint_map_diagnostic, List.map_eq_nil_iff, List.filter_eq_nil_iff]
  intro issue hissue hbp
  obtain ⟨severity, bp', p, -, -, hp, rfl⟩ := mem_overlapIssues.mp hissue
  obtain rfl : bp' = bp := Option.some.inj (eq_of_beq hbp)
  rw [overlapsAt_eq_nil_iff.mpr h] at hp
  exact absurd hp List.not_mem_nil

end GridLayout
