import GridLayout.Proofs.Reported

/-!
# The strict reading of a solution

Read strictly, a solution is itself or a list of errors.  Only two kinds of trouble are errors: an
operation that fails, and, where the policy asks for it, two boxes that overlap.  Everything else
that a solve has to assume, skip or shift is a warning, and a strict reading passes it on.

* `Input.Flawless`: none of the two kinds of trouble is there.
* `Input.flawless_iff`: this is the case exactly when nothing is reported as an error.
* `Input.strict_solution_iff`: when a strict reading succeeds, and what it yields either way.

All of it holds over any numbers.
-/

namespace GridLayout

variable {α : Type} [Scalar α]

/-- The audit reports errors under one policy. -/
theorem OverlapPolicy.severity?_eq_error_iff {policy : OverlapPolicy} :
    policy.severity? = some .error ↔ policy = .error := by
  cases policy <;> simp [OverlapPolicy.severity?]

namespace Input

/-- Nothing that a strict reading objects to: no operation fails at any breakpoint, and where
overlaps are errors, no two boxes overlap at a breakpoint that is audited. -/
structure Flawless (i : Input α) : Prop where
  operations : ∀ bp, i.OperationsSucceedAt bp
  overlaps : i.options.overlapPolicy = .error →
    ∀ bp ∈ i.options.overlapBreakpoints, i.solution.plan.DisjointAt bp

variable {i : Input α}

/-- **A flaw is reported as an error.** -/
theorem flawless_of_reports (h : ∀ issue, i.Reports issue → issue.severity ≠ .error) :
    i.Flawless := by
  constructor
  · exact operationsSucceedAt_of_not_reports fun _ _ _ hreport => h _ hreport rfl
  · intro hpolicy bp hbp
    have hseverity := OverlapPolicy.severity?_eq_error_iff.mpr hpolicy
    exact disjointAt_of_not_reports hseverity hbp fun _ _ hreport => h _ hreport rfl

/-- **What is reported as an error is a flaw.**  The causes are taken one by one; all but the
operations and the audit report warnings. -/
theorem Flawless.severity_ne_error (hflawless : i.Flawless) {issue : Issue α}
    (h : i.Reports issue) : issue.severity ≠ .error := by
  have hwarning : ∀ {issue : Issue α}, issue.origin ≠ .transformation → issue.origin ≠ .overlap →
      issue.severity ≠ .error := by
    intro issue hop haudit
    rw [Issue.severity_eq_warning hop haudit]
    decide
  cases h with
  | fallback => simp [Issue.severity]
  | order hs h =>
    have horigin := SectionSpec.origin_orderIssues h
    exact hwarning (by simp [horigin]) (by simp [horigin])
  | member hs h =>
    have hplacement := SectionSpec.isPlacement_memberIssues h
    refine hwarning ?_ ?_
    · intro horigin
      simp [horigin, Origin.isPlacement] at hplacement
    · intro horigin
      simp [horigin, Origin.isPlacement] at hplacement
  | @boxOperation sectionId s bp f hs h =>
    have hnone := (operationsSucceedAt_iff.mp (hflawless.operations bp)).1 sectionId s hs
    rw [hnone] at h
    exact absurd h List.not_mem_nil
  | emptySection => simp [Issue.severity]
  | @sectionOperation bp f h =>
    have hnone := (operationsSucceedAt_iff.mp (hflawless.operations bp)).2
    rw [hnone] at h
    exact absurd h List.not_mem_nil
  | shift h =>
    have horigin := origin_normalizeAt h
    exact hwarning (by simp [horigin]) (by simp [horigin])
  | @overlap severity bp p hpolicy hbp h =>
    intro herror
    have hseverity : severity = .error := herror
    rw [hseverity, OverlapPolicy.severity?_eq_error_iff] at hpolicy
    have hnone := overlapsAt_eq_nil_iff.mpr (hflawless.overlaps hpolicy bp hbp)
    rw [hnone] at h
    exact absurd h List.not_mem_nil

/-- **There is no flaw** exactly when nothing is reported as an error. -/
theorem flawless_iff : i.Flawless ↔ Diagnostic.hasErrors i.solution.diagnostics = false := by
  rw [← Bool.not_eq_true, hasErrors_iff]
  constructor
  · rintro hflawless ⟨issue, hissue, herror⟩
    exact hflawless.severity_ne_error hissue herror
  · intro h
    exact flawless_of_reports fun issue hissue herror => h ⟨issue, hissue, herror⟩

/-- **When a strict reading succeeds.**  It yields the solution itself, with its plan and all of its
reports, exactly when no operation of any list fails at any breakpoint and, where overlaps are
errors, no two boxes overlap at a breakpoint that is audited.  In all other cases it fails with the
reports that are errors, in the order in which they were made. -/
theorem strict_solution_iff (i : Input α) :
    (i.solution.strict = .ok i.solution ↔
        (∀ bp, i.OperationsSucceedAt bp) ∧
          (i.options.overlapPolicy = .error →
            ∀ bp ∈ i.options.overlapBreakpoints, i.solution.plan.DisjointAt bp)) ∧
      (i.solution.strict =
          .error (i.solution.diagnostics.filter fun d => decide (d.severity = .error)) ↔
        ¬ ((∀ bp, i.OperationsSucceedAt bp) ∧
          (i.options.overlapPolicy = .error →
            ∀ bp ∈ i.options.overlapBreakpoints, i.solution.plan.DisjointAt bp))) := by
  have hflawless : i.Flawless ↔ (∀ bp, i.OperationsSucceedAt bp) ∧
      (i.options.overlapPolicy = .error →
        ∀ bp ∈ i.options.overlapBreakpoints, i.solution.plan.DisjointAt bp) :=
    ⟨fun h => ⟨h.operations, h.overlaps⟩, fun h => ⟨h.1, h.2⟩⟩
  rw [← hflawless, flawless_iff]
  cases h : Diagnostic.hasErrors i.solution.diagnostics with
  | false =>
    have hok : i.solution.strict = .ok i.solution := by
      rw [Solution.strict, Diagnostic.verdict, h]
      rfl
    rw [hok]
    simp
  | true =>
    have herror : i.solution.strict =
        .error (i.solution.diagnostics.filter fun d => decide (d.severity = .error)) := by
      rw [Solution.strict, Diagnostic.verdict, h]
      rfl
    rw [herror]
    simp

end Input

end GridLayout
