import GridLayout.Proofs.Boxwise
import GridLayout.Proofs.Deletion
import GridLayout.Proofs.Landing

/-!
# Independent operations commute

An operation on one box looks at two boxes at most, the one that it moves and the one that its
target is an anchor of, and writes to one, the one that it moves.  Of all the others it only sees
that they are there.  So two such operations get in each other's way only where one of them moves
what the other looks at.  Where neither does, it makes no difference which of them is carried out
first, whether they succeed or fail.

* `Operation.targetBox?`: with `Operation.movedBox?`, the boxes an operation looks at.
* `Operation.check_eq_of_reads`: its checks come to the same among boxes that agree on these two.
* `Operation.exists_shift_of_check`, `Operation.get?_runAll_singleton`: it moves the first of them.
* `Operation.Independent`: neither of two operations moves what the other looks at.
* `Operation.evaluateAll_comm`: two independent operations, in either order.

All of it holds over any numbers, finite or not: nothing is added up in another order, since each
displacement is computed from the same boxes.
-/

namespace GridLayout

variable {α : Type}

/-! ## What an operation looks at -/

namespace Operation

/-- The box that the target of an operation is an anchor of, when it is one. -/
def targetBox? : Operation α → Option String
  | .moveTo _ (.anchor r) _ => some r.boxId
  | .align _ _ (.anchor r) _ => some r.boxId
  | .alignAll _ (.anchor r) _ _ => some r.boxId
  | _ => none

end Operation

section

variable [Scalar α] {boxes boxes' : BoxMap α} (hkeys : boxes.keys = boxes'.keys)
include hkeys

theorem findBox_eq {boxId : String} (h : boxes.get? boxId = boxes'.get? boxId) :
    findBox boxes boxId = findBox boxes' boxId := by
  rw [findBox, findBox, hkeys, h]

theorem AnchorRef.find_eq {r : AnchorRef} (h : boxes.get? r.boxId = boxes'.get? r.boxId) :
    r.find boxes = r.find boxes' := by
  rw [find, find, findBox_eq hkeys h]

theorem Target.resolve_eq {t : Target α}
    (h : ∀ r, t = .anchor r → boxes.get? r.boxId = boxes'.get? r.boxId) :
    t.resolve boxes = t.resolve boxes' := by
  cases t with
  | anchor r => rw [resolve, resolve, AnchorRef.find_eq hkeys (h r rfl)]
  | point | value | malformed => rfl

/-- **The checks of an operation come to the same** among boxes with the same ids in the same order
that agree on the box that it moves and on the one that its target is an anchor of. -/
theorem Operation.check_eq_of_reads {op : Operation α}
    (hmoved : ∀ id, op.movedBox? = some id → boxes.get? id = boxes'.get? id)
    (htarget : ∀ id, op.targetBox? = some id → boxes.get? id = boxes'.get? id) :
    op.check boxes = op.check boxes' := by
  cases op with
  | moveTo source target gap =>
    refine bind_congr_of_ok fun r hsource => ?_
    obtain rfl : source = .valid r := Param.check_eq_ok_iff.mp hsource
    rw [AnchorRef.find_eq hkeys (hmoved r.boxId rfl),
      Target.resolve_eq hkeys fun t ht => htarget t.boxId (by rw [ht, targetBox?])]
  | moveBy source displacement gap =>
    refine bind_congr_of_ok fun r hsource => ?_
    obtain rfl : source = .valid r := Param.check_eq_ok_iff.mp hsource
    rw [findBox_eq hkeys (hmoved r.boxId rfl)]
  | align axis source target gap =>
    refine bind_congr_of_ok fun r hsource => ?_
    obtain rfl : source = .valid r := Param.check_eq_ok_iff.mp hsource
    rw [AnchorRef.find_eq hkeys (hmoved r.boxId rfl),
      Target.resolve_eq hkeys fun t ht => htarget t.boxId (by rw [ht, targetBox?])]
  | alignAll axis target anchor gap =>
    rw [check, check, Target.resolve_eq hkeys fun t ht => htarget t.boxId (by rw [ht, targetBox?])]
  | stack axis gap => rfl

end

/-! ## What an operation moves -/

variable [Scalar α]

/-- Displacements of two different boxes may be carried out in either order. -/
theorem Motion.shift_comm {id id' : String} (hne : id ≠ id') (d d' : Coordinate α)
    (boxes : BoxMap α) :
    (Motion.shift id d).apply ((Motion.shift id' d').apply boxes) =
      (Motion.shift id' d').apply ((Motion.shift id d).apply boxes) := by
  simp only [Motion.apply, IdMap.modify_eq_mapEntries]
  rw [IdMap.mapEntries_mapEntries, IdMap.mapEntries_mapEntries]
  refine IdMap.mapEntries_congr fun e _ => ?_
  by_cases h : e.1 = id
  · have h' : e.1 ≠ id' := fun heq => hne (h.symm.trans heq)
    rw [if_pos h, if_neg h', if_neg h', if_pos h]
  · rw [if_neg h, if_neg h]

namespace Operation

/-- **An operation on one box moves the box that it names**, and moves it by a displacement. -/
theorem exists_shift_of_check {op : Operation α} (hone : op.movesOneBox = true) {boxes : BoxMap α}
    {m : Motion α} (h : op.check boxes = .ok m) :
    ∃ id delta, op.movedBox? = some id ∧ m = .shift id delta := by
  cases leads_of_check h with
  | shift hmoved delta => exact ⟨_, delta, hmoved, rfl⟩
  | level => exact nomatch hone
  | stack => exact nomatch hone

/-- What the checks of an operation lead to, carried out: a motion moves boxes, and a failure moves
none. -/
def carryOut : Except (Failure α) (Motion α) → BoxMap α → BoxMap α
  | .ok m, boxes => m.apply boxes
  | .error _, boxes => boxes

theorem runAll_singleton (op : Operation α) (boxes : BoxMap α) :
    (runAll [op] boxes).1 = carryOut (op.check boxes) boxes := by
  cases hcheck : op.check boxes with
  | ok m =>
    have hrun : op.run boxes = .ok (m.apply boxes) := run_eq_ok_iff.mpr ⟨m, hcheck, rfl⟩
    rw [runAll_singleton_of_ok hrun, carryOut]
  | error f =>
    rw [runAll_cons_of_error (run_eq_error_iff.mpr hcheck), carryOut]
    rfl

/-- **An operation on one box leaves all others where they are.** -/
theorem get?_runAll_singleton {op : Operation α} (hone : op.movesOneBox = true) {id : String}
    (hid : op.movedBox? ≠ some id) (boxes : BoxMap α) :
    (runAll [op] boxes).1.get? id = boxes.get? id := by
  rw [runAll_singleton]
  cases hcheck : op.check boxes with
  | error f => rfl
  | ok m =>
    obtain ⟨id', delta, hmoved, rfl⟩ := exists_shift_of_check hone hcheck
    have hne : id ≠ id' := fun heq => hid (heq ▸ hmoved)
    exact (Motion.onlyMoves_shift id' delta boxes).others id hne

/-! ## Either order -/

/-- Neither of two operations on single boxes moves what the other looks at: they move different
boxes, and neither aims at an anchor of the box that the other moves. -/
structure Independent (op op' : Operation α) : Prop where
  one : op.movesOneBox = true
  one' : op'.movesOneBox = true
  moved : ∀ id, op.movedBox? = some id → op'.movedBox? ≠ some id
  target : ∀ id, op.movedBox? = some id → op'.targetBox? ≠ some id
  target' : ∀ id, op'.movedBox? = some id → op.targetBox? ≠ some id

variable {op op' : Operation α}

omit [Scalar α] in
theorem Independent.symm (h : Independent op op') : Independent op' op where
  one := h.one'
  one' := h.one
  moved id hid' hid := h.moved id hid hid'
  target := h.target'
  target' := h.target

/-- **The checks of an operation do not see that an independent one has been carried out.** -/
theorem Independent.check_eq (h : Independent op op') (boxes : BoxMap α) :
    op.check (runAll [op'] boxes).1 = op.check boxes := by
  refine check_eq_of_reads (keys_runAll [op'] boxes) (fun id hid => ?_) fun id hid => ?_
  · exact get?_runAll_singleton h.one' (h.moved id hid) boxes
  · exact get?_runAll_singleton h.one' (fun hid' => h.target' id hid' hid) boxes

/-- Both of two independent operations are carried out as their checks on the first boxes say. -/
theorem Independent.runAll_pair (h : Independent op op') (boxes : BoxMap α) :
    (runAll [op, op'] boxes).1 = carryOut (op'.check boxes) (carryOut (op.check boxes) boxes) := by
  have happend := runAll_append [op] [op'] boxes
  rw [List.singleton_append] at happend
  rw [happend, ← h.symm.check_eq boxes, ← runAll_singleton, ← runAll_singleton]

/-- **Two independent operations lead to the same boxes in either order.** -/
theorem Independent.runAll_comm (h : Independent op op') (boxes : BoxMap α) :
    (runAll [op, op'] boxes).1 = (runAll [op', op] boxes).1 := by
  rw [h.runAll_pair, h.symm.runAll_pair]
  cases hop : op.check boxes with
  | error f => rfl
  | ok m =>
    cases hop' : op'.check boxes with
    | error f => rfl
    | ok m' =>
      obtain ⟨id, d, hmoved, rfl⟩ := exists_shift_of_check h.one hop
      obtain ⟨id', d', hmoved', rfl⟩ := exists_shift_of_check h.one' hop'
      have hne : id' ≠ id := fun heq => h.moved id hmoved (heq ▸ hmoved')
      exact Motion.shift_comm hne d' d boxes

/-- Whatever operations come one after the other, each reports what it reports alone. -/
theorem reports_pair (op op' : Operation α) (boxes : BoxMap α) (scope : Scope) :
    (evaluateAll [op, op'] boxes scope).2 =
      (evaluateAll [op] boxes scope).2 ++ (evaluateAll [op'] boxes scope).2 := by
  have hfailures : (runAll [op, op'] boxes).2 =
      (runAll [op] boxes).2 ++ (runAll [op'] boxes).2 := by
    rw [runAll_eq_filter [op, op'] rfl, List.flatMap_cons, List.flatMap_singleton]
  rw [evaluateAll, hfailures, operationIssues, List.map_append, List.map_append]
  rfl

/-- **Independent operations commute.**  When two operations on single boxes move different boxes,
and neither aims at an anchor of the box that the other moves, they lead to the same boxes in either
order, whether or not they succeed.  Each reports what it reports alone, so the reports differ in
their order only. -/
theorem evaluateAll_comm (h : Independent op op') (boxes : BoxMap α) (scope : Scope) :
    (evaluateAll [op, op'] boxes scope).1 = (evaluateAll [op', op] boxes scope).1 ∧
      (evaluateAll [op, op'] boxes scope).2 =
        (evaluateAll [op] boxes scope).2 ++ (evaluateAll [op'] boxes scope).2 ∧
      (evaluateAll [op', op] boxes scope).2 =
        (evaluateAll [op'] boxes scope).2 ++ (evaluateAll [op] boxes scope).2 :=
  ⟨h.runAll_comm boxes, reports_pair op op' boxes scope, reports_pair op' op boxes scope⟩

/-- A wide box, a tall one and a post, with their origins where they are asked for. -/
def aroundPost (wide tall : Coordinate Rat) : BoxMap Rat :=
  IdMap.ofList [("wide", .new wide ⟨4, 1⟩), ("post", .new ⟨2, 3⟩ ⟨1, 1⟩),
    ("tall", .new tall ⟨1, 3⟩)]

/-- Puts the wide box on the post. -/
def wideOnPost : Operation Rat :=
  .moveTo (.valid ⟨"wide", "center"⟩) (.anchor ⟨"post", "topRight"⟩) (some (.vector ⟨0, 1 / 2⟩))

/-- Puts the tall box in line with the post. -/
def tallBesidePost : Operation Rat :=
  .align .y (.valid ⟨"tall", "topLeft"⟩) (.anchor ⟨"post", "center"⟩) none

theorem aroundPost_comm :
    Independent wideOnPost tallBesidePost ∧
      (evaluateAll [wideOnPost, tallBesidePost] (aroundPost ⟨0, 0⟩ ⟨-7, 0⟩) ⟨.lg, none⟩).1 =
        aroundPost ⟨1, 4⟩ ⟨-7, 1 / 2⟩ ∧
      (evaluateAll [tallBesidePost, wideOnPost] (aroundPost ⟨0, 0⟩ ⟨-7, 0⟩) ⟨.lg, none⟩).1 =
        aroundPost ⟨1, 4⟩ ⟨-7, 1 / 2⟩ ∧
      (evaluateAll [tallBesidePost, wideOnPost] (aroundPost ⟨0, 0⟩ ⟨-7, 0⟩) ⟨.lg, none⟩).2 =
        [] := by
  have hindependent : Independent wideOnPost tallBesidePost := by
    refine ⟨rfl, rfl, ?_, ?_, ?_⟩ <;>
    · rintro id ⟨⟩
      decide
  have hboxes : (runAll [wideOnPost, tallBesidePost] (aroundPost ⟨0, 0⟩ ⟨-7, 0⟩)).1 =
      aroundPost ⟨1, 4⟩ ⟨-7, 1 / 2⟩ := by decide +kernel
  obtain ⟨hcomm, -, hreports⟩ :=
    evaluateAll_comm hindependent (aroundPost ⟨0, 0⟩ ⟨-7, 0⟩) ⟨.lg, none⟩
  exact ⟨hindependent, hboxes, hcomm.symm.trans hboxes, hreports⟩

end Operation

end GridLayout
