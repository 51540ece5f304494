import GridLayout.Proofs.Landing
import GridLayout.Proofs.Stacking
import Mathlib.Tactic.Ring

/-!
# Where the boxes of a stack are

A stack places its boxes one after another with a running cursor: a box is moved by the difference
between the cursor and where it starts, and the cursor goes on by its extent and the gap.  Where a
box was before cancels out.  Along the axis of the stack the boxes start at places that come from
the extents alone, and across it they stay.

* `Coordinate.follow`: the same run of the cursor over extents.  `Motion.map_origin_stack` says that
  it is what a stack shows of its boxes along the axis.
* `Coordinate.accumEntries_follow`: the run in closed form.  The induction is on the boxes, from any
  start of the cursor.
* `BoxMap.eq_of_views`: extents and places along both axes are all there is to some boxes.
* `Operation.run_stack_places`: where a stack puts every box, and that a second one changes nothing.

Everything is in exact numbers.
-/

namespace GridLayout

/-! ## The run of the cursor -/

namespace Coordinate

/-- Shows the cursor, and moves it past an extent and the gap. -/
def follow (axis : Axis) (gap cursor : Rat) (extent : Coordinate Rat) : Rat × Rat :=
  (cursor, cursor + (extent.along axis + gap))

/-- **The cursor in closed form**: it shows its start, the extents it has passed and a gap for each
of them. -/
theorem accumEntries_follow (axis : Axis) (gap : Rat) (l : List (String × Coordinate Rat)) :
    ∀ cursor, (IdMap.accumEntries (follow axis gap) cursor l).map Prod.snd =
      (List.range l.length).map fun i =>
        cursor + (((l.take i).map fun e => e.2.along axis).sum + i * gap) := by
  induction l with
  | nil => exact fun _ => rfl
  | cons first rest ih =>
    obtain ⟨id, extent⟩ := first
    intro cursor
    rw [IdMap.accumEntries, List.map_cons, ih, List.length_cons, List.range_succ_eq_map,
      List.map_cons, List.map_map]
    congr 1
    · simp [follow]
    · refine List.map_congr_left fun i _ => ?_
      simp only [follow, Function.comp_apply, List.take_succ_cons, List.map_cons, List.sum_cons,
        Nat.cast_succ]
      ring

end Coordinate

/-! ## Views of some boxes -/

namespace BoxMap

/-- Boxes with the same extents that are at the same places along an axis and along the other are
the same boxes. -/
theorem eq_of_views {boxes boxes' : BoxMap Rat} (axis : Axis)
    (hextents : BoxMap.extents boxes = BoxMap.extents boxes')
    (halong : boxes.map (fun b => b.origin.along axis) = boxes'.map fun b => b.origin.along axis)
    (hacross : boxes.map (fun b => b.origin.along axis.other) =
      boxes'.map fun b => b.origin.along axis.other) : boxes = boxes' := by
  refine IdMap.ext_get? (keys_eq_of_extents_eq hextents) fun id => ?_
  have hview : ∀ {β : Type} {f : GridBox Rat → β}, boxes.map f = boxes'.map f →
      (boxes.get? id).map f = (boxes'.get? id).map f := by
    intro β f h
    rw [← IdMap.get?_map, ← IdMap.get?_map, h]
  have hdiagonal := hview hextents
  have horigin := hview halong
  have hother := hview hacross
  cases hb : boxes.get? id with
  | none =>
    rw [hb, Option.map_none] at hdiagonal
    exact (Option.map_eq_none_iff.mp hdiagonal.symm).symm
  | some b =>
    rw [hb, Option.map_some] at hdiagonal horigin hother
    obtain ⟨b', hb', heq⟩ := Option.map_eq_some_iff.mp hdiagonal.symm
    rw [hb', Option.map_some] at horigin hother
    have hplace : b.origin = b'.origin :=
      Coordinate.ext_along_other axis (Option.some.inj horigin) (Option.some.inj hother)
    rw [hb', GridBox.ext hplace heq.symm]

/-- The same boxes at other places. -/
def relocate (origins : String → Coordinate Rat) (boxes : BoxMap Rat) : BoxMap Rat :=
  boxes.mapEntries fun id b => { b with origin := origins id }

theorem extents_relocate (origins : String → Coordinate Rat) (boxes : BoxMap Rat) :
    BoxMap.extents (relocate origins boxes) = BoxMap.extents boxes :=
  IdMap.map_mapEntries _ _ _

end BoxMap

/-! ## Stacks -/

namespace Motion

variable (axis : Axis) (gap : Rat)

/-- **Where the boxes of a stack start is a matter of their extents.** -/
theorem map_origin_stack (boxes : BoxMap Rat) :
    ((Motion.stack axis gap).apply boxes).map (fun b => b.origin.along axis) =
      (BoxMap.extents boxes).mapAccum (Coordinate.follow axis gap) 0 := by
  refine (IdMap.mapAccum_map (fun cursor b => ?_) 0 boxes).symm
  rw [GridBox.along_origin_place]
  rfl

/-- Across its axis a stack moves no box. -/
theorem map_other_origin_stack (boxes : BoxMap Rat) :
    ((Motion.stack axis gap).apply boxes).map (fun b => b.origin.along axis.other) =
      boxes.map fun b => b.origin.along axis.other := by
  refine IdMap.map_mapAccum (fun cursor b => ?_) _ boxes
  rw [GridBox.place, GridBox.origin_translate, Coordinate.along_add, Coordinate.along_other_onAxis]
  exact add_zero _

/-- **Stacking again changes nothing.** -/
theorem stack_stack (boxes : BoxMap Rat) :
    (Motion.stack axis gap).apply ((Motion.stack axis gap).apply boxes) =
      (Motion.stack axis gap).apply boxes := by
  have hextents := (Motion.stack axis gap).extents_apply boxes
  refine BoxMap.eq_of_views axis (Motion.extents_apply _ _) ?_ (map_other_origin_stack axis gap _)
  rw [map_origin_stack, map_origin_stack, hextents]

/-- The boxes of a stack in their order, each after the extents before it and as many gaps. -/
theorem values_stack (boxes : BoxMap Rat) :
    ((Motion.stack axis gap).apply boxes).values.map (fun b => b.origin.along axis) =
      (List.range boxes.size).map fun i =>
        ((boxes.values.take i).map fun b => b.diagonal.along axis).sum + i * gap := by
  rw [← IdMap.values_map, map_origin_stack]
  refine (Coordinate.accumEntries_follow axis gap (BoxMap.extents boxes).entries 0).trans ?_
  rw [BoxMap.extents, IdMap.entries_map, List.length_map, IdMap.size]
  refine List.map_congr_left fun i _ => ?_
  rw [zero_add, IdMap.values, ← List.map_take, ← List.map_take, List.map_map, List.map_map]
  rfl

end Motion

/-- **Stacks in closed form.**  A stack whose gap is a number, or absent and thus zero, succeeds on
any boxes.  Along its axis every box starts where the extents of the boxes before it and as many
gaps add up to; across its axis it stays where it was, and its extent, its id and its place in the
order are what they were.  Wherever the boxes are put before, they are stacked at the same places,
and stacking them again changes nothing. -/
theorem Operation.run_stack_places (axis : Axis) (gap : Option Rat) (boxes : BoxMap Rat) :
    ∃ moved, (Operation.stack axis (gap.map .valid)).run boxes = .ok moved ∧
      moved.values.map (fun b => b.origin.along axis) =
        (List.range boxes.size).map (fun i =>
          ((boxes.values.take i).map fun b => b.diagonal.along axis).sum + i * gap.getD 0) ∧
      moved.map (fun b => b.origin.along axis.other) =
        boxes.map (fun b => b.origin.along axis.other) ∧
      BoxMap.extents moved = BoxMap.extents boxes ∧
      (∀ origins : String → Coordinate Rat, ∃ moved',
        (Operation.stack axis (gap.map .valid)).run (BoxMap.relocate origins boxes) = .ok moved' ∧
          moved'.map (fun b => b.origin.along axis) = moved.map fun b => b.origin.along axis) ∧
      (Operation.stack axis (gap.map .valid)).run moved = .ok moved := by
  have hrun : ∀ boxes : BoxMap Rat, (Operation.stack axis (gap.map .valid)).run boxes =
      .ok ((Motion.stack axis (gap.getD 0)).apply boxes) := by
    cases gap with
    | none => exact fun _ => rfl
    | some g => exact fun _ => rfl
  refine ⟨(Motion.stack axis (gap.getD 0)).apply boxes, hrun boxes,
    Motion.values_stack axis _ boxes, Motion.map_other_origin_stack axis _ boxes,
    Motion.extents_apply _ boxes, fun origins => ⟨_, hrun _, ?_⟩, ?_⟩
  · rw [Motion.map_origin_stack, Motion.map_origin_stack, BoxMap.extents_relocate]
  · rw [hrun, Motion.stack_stack]

end GridLayout
