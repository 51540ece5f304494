import GridLayout.Proofs.Rigid

/-!
# Lists of operations that succeed

A list of operations is carried out to its end whatever fails on the way, and the failures are
listed.  An operation fails or succeeds where it stands: on the boxes as the operations before it
have left them.

* `Operation.runAll_append`: a list is carried out in two parts, the second where the first ends.
* `Operation.AllSucceed`: every operation of a list succeeds where it stands.
* `Operation.failures_runAll_eq_nil_iff`: this is the case exactly when no failure is listed.
-/

namespace GridLayout

namespace Operation

variable {α : Type} [Scalar α]

/-! ## Two parts of a list -/

/-- **Operations are carried out in two parts**, the second on the boxes that the first has left. -/
theorem runAll_append (ops later : List (Operation α)) :
    ∀ boxes : BoxMap α, runAll (ops ++ later) boxes =
      ((runAll later (runAll ops boxes).1).1,
        (runAll ops boxes).2 ++ (runAll later (runAll ops boxes).1).2) := by
  induction ops with
  | nil => exact fun _ => rfl
  | cons op ops ih =>
    intro boxes
    rw [List.cons_append]
    cases hrun : op.run boxes with
    | ok moved => rw [runAll_cons_of_ok hrun, runAll_cons_of_ok hrun, ih]
    | error f => rw [runAll_cons_of_error hrun, runAll_cons_of_error hrun, ih, List.cons_append]

theorem runAll_singleton_of_ok {op : Operation α} {boxes moved : BoxMap α}
    (h : op.run boxes = .ok moved) : runAll [op] boxes = (moved, []) := by
  rw [runAll_cons_of_ok h]
  rfl

/-! ## Success -/

/-- Every operation of a list succeeds on the boxes that the operations before it have left. -/
def AllSucceed (ops : List (Operation α)) (boxes : BoxMap α) : Prop :=
  ∀ before op after, ops = before ++ op :: after →
    ∃ moved, op.run (runAll before boxes).1 = .ok moved

theorem allSucceed_nil (boxes : BoxMap α) : AllSucceed [] boxes := by
  intro before op after h
  exact absurd h.symm (List.append_ne_nil_of_right_ne_nil _ (List.cons_ne_nil _ _))

/-- A list succeeds when its first operation does and the others do after it. -/
theorem allSucceed_cons_iff {op : Operation α} {ops : List (Operation α)} {boxes : BoxMap α} :
    AllSucceed (op :: ops) boxes ↔
      ∃ moved, op.run boxes = .ok moved ∧ AllSucceed ops moved := by
  constructor
  · intro h
    obtain ⟨moved, hrun⟩ : ∃ moved, op.run boxes = .ok moved := h [] op ops rfl
    refine ⟨moved, hrun, fun before later after heq => ?_⟩
    have hlater := h (op :: before) later after (by rw [heq, List.cons_append])
    rwa [runAll_cons_of_ok hrun] at hlater
  · rintro ⟨moved, hrun, hrest⟩ before later after heq
    cases before with
    | nil =>
      obtain ⟨rfl, -⟩ := List.cons.inj heq
      exact ⟨moved, hrun⟩
    | cons first before =>
      obtain ⟨rfl, htail⟩ := List.cons.inj heq
      rw [runAll_cons_of_ok hrun]
      exact hrest before later after htail

/-- **No failure is listed** exactly when every operation succeeds where it stands. -/
theorem failures_runAll_eq_nil_iff {ops : List (Operation α)} :
    ∀ {boxes : BoxMap α}, (runAll ops boxes).2 = [] ↔ AllSucceed ops boxes := by
  induction ops with
  | nil => exact fun {boxes} => ⟨fun _ => allSucceed_nil boxes, fun _ => rfl⟩
  | cons op ops ih =>
    intro boxes
    rw [allSucceed_cons_iff]
    cases hrun : op.run boxes with
    | ok moved =>
      rw [runAll_cons_of_ok hrun, ih]
      constructor
      · intro h
        exact ⟨moved, rfl, h⟩
      · rintro ⟨_, heq, h⟩
        rw [Except.ok.inj heq]
        exact h
    | error f =>
      rw [runAll_cons_of_error hrun]
      constructor
      · intro h
        exact absurd h (List.cons_ne_nil _ _)
      · rintro ⟨_, heq, -⟩
        exact nomatch heq

end Operation

end GridLayout
