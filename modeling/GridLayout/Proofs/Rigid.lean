import GridLayout.Arrange.Motion
import GridLayout.Proofs.IdMap

/-!
# Operations move boxes and do nothing else

Whatever an operation asks for, a box comes out with the extent it went in with, under the id it had
and at the place in the order it had.  `BoxMap.extents` forgets where the boxes are and keeps all
the rest, so this is one equation: `Motion.extents_apply` for one motion and
`Operation.extents_runAll` for a list of operations, failing ones included.

Both go through `Operation.runAll_induction`: what every motion preserves, a list of operations
preserves.
-/

namespace GridLayout

variable {α : Type} [Scalar α]

/-- The extents of some boxes, without their places. -/
def BoxMap.extents (boxes : BoxMap α) : IdMap (Coordinate α) := boxes.map GridBox.diagonal

/-! ## One motion -/

@[simp] theorem GridBox.diagonal_place (axis : Axis) (gap cursor : α) (b : GridBox α) :
    (b.place axis gap cursor).1.diagonal = b.diagonal := rfl

/-- **A motion keeps every extent**, every id and the order of the ids. -/
theorem Motion.extents_apply (m : Motion α) (boxes : BoxMap α) :
    BoxMap.extents (m.apply boxes) = BoxMap.extents boxes := by
  cases m with
  | shift boxId delta =>
    rw [Motion.apply, BoxMap.extents, BoxMap.extents, IdMap.modify_eq_mapEntries,
      IdMap.map_mapEntries]
    refine IdMap.mapEntries_congr fun e _ => ?_
    split <;> rfl
  | level axis anchor line =>
    rw [Motion.apply, BoxMap.extents, BoxMap.extents, IdMap.map_map]
    rfl
  | stack axis gap =>
    rw [Motion.apply, BoxMap.extents, BoxMap.extents]
    exact IdMap.map_mapAccum (GridBox.diagonal_place axis gap) _ _

theorem BoxMap.keys_eq_of_extents_eq {boxes moved : BoxMap α}
    (h : BoxMap.extents moved = BoxMap.extents boxes) : moved.keys = boxes.keys := by
  have hkeys := congrArg IdMap.keys h
  rwa [extents, extents, IdMap.keys_map, IdMap.keys_map] at hkeys

theorem Motion.keys_apply (m : Motion α) (boxes : BoxMap α) : (m.apply boxes).keys = boxes.keys :=
  BoxMap.keys_eq_of_extents_eq (m.extents_apply boxes)

/-! ## Lists of operations -/

namespace Operation

/-- An operation that succeeds carries out the motion its checks led to. -/
theorem run_eq_ok_iff {op : Operation α} {boxes moved : BoxMap α} :
    op.run boxes = .ok moved ↔ ∃ m, op.check boxes = .ok m ∧ m.apply boxes = moved := by
  rw [run]
  cases op.check boxes with
  | error f => exact ⟨fun h => (nomatch h), fun ⟨_, h, _⟩ => (nomatch h)⟩
  | ok m =>
    constructor
    · intro h
      exact ⟨m, rfl, Except.ok.inj h⟩
    · rintro ⟨m', hm, rfl⟩
      rw [← Except.ok.inj hm]
      rfl

/-- An operation fails when its checks do. -/
theorem run_eq_error_iff {op : Operation α} {boxes : BoxMap α} {f : Failure α} :
    op.run boxes = .error f ↔ op.check boxes = .error f := by
  rw [run]
  cases op.check boxes with
  | error g => rw [Except.map, Except.error.injEq, Except.error.injEq]
  | ok m => exact ⟨nofun, nofun⟩

theorem runAll_cons_of_ok {op : Operation α} {ops : List (Operation α)} {boxes moved : BoxMap α}
    (h : op.run boxes = .ok moved) : runAll (op :: ops) boxes = runAll ops moved := by
  rw [runAll, h]

theorem runAll_cons_of_error {op : Operation α} {ops : List (Operation α)} {boxes : BoxMap α}
    {f : Failure α} (h : op.run boxes = .error f) :
    runAll (op :: ops) boxes = ((runAll ops boxes).1, (op, f) :: (runAll ops boxes).2) := by
  rw [runAll, h]

/-- **What every motion preserves, a list of operations preserves.** -/
theorem runAll_induction {P : BoxMap α → Prop}
    (hstep : ∀ (m : Motion α) (boxes : BoxMap α), P boxes → P (m.apply boxes)) :
    ∀ (ops : List (Operation α)) (boxes : BoxMap α), P boxes → P (runAll ops boxes).1 := by
  intro ops
  induction ops with
  | nil => exact fun _ h => h
  | cons op ops ih =>
    intro boxes h
    cases hrun : op.run boxes with
    | ok moved =>
      obtain ⟨m, -, rfl⟩ := run_eq_ok_iff.mp hrun
      rw [runAll_cons_of_ok hrun]
      exact ih _ (hstep m boxes h)
    | error f =>
      rw [runAll_cons_of_error hrun]
      exact ih boxes h

/-- **Operations keep every extent**, every id and the order of the ids. -/
theorem extents_runAll (ops : List (Operation α)) (boxes : BoxMap α) :
    BoxMap.extents (runAll ops boxes).1 = BoxMap.extents boxes :=
  runAll_induction (P := fun moved => BoxMap.extents moved = BoxMap.extents boxes)
    (fun m moved h => (m.extents_apply moved).trans h) ops boxes rfl

theorem keys_runAll (ops : List (Operation α)) (boxes : BoxMap α) :
    (runAll ops boxes).1.keys = boxes.keys :=
  BoxMap.keys_eq_of_extents_eq (extents_runAll ops boxes)

/-- The box of an id after some operations: it is there when it was there before, with its extent.
-/
theorem diagonal_get?_runAll (ops : List (Operation α)) (boxes : BoxMap α) (id : String) :
    ((runAll ops boxes).1.get? id).map GridBox.diagonal = (boxes.get? id).map GridBox.diagonal := by
  rw [← IdMap.get?_map, ← IdMap.get?_map]
  exact congrArg (fun m : IdMap (Coordinate α) => m.get? id) (extents_runAll ops boxes)

end Operation

end GridLayout
