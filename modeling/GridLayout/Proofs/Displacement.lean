import GridLayout.Proofs.Enclosure
import GridLayout.Proofs.Rigid

/-!
# One box is displaced

A displacement moves a box and all its anchors by the same amount, and moves nothing else.  The two
halves of this are stated so that they can be read backwards, from where things are to the
displacement.

* `GridBox.anchor_translate`: every anchor of a box moves as the box does.  So where one anchor of a
  box is, with its extent, decides where the box is (`GridBox.eq_translate_iff_anchor`), and along
  one axis likewise (`GridBox.eq_translate_onAxis_iff`).
* `BoxMap.OnlyMoves`: one box has changed its place, and nothing else has changed.
* `Motion.shift_apply_eq_iff`: some boxes are the outcome of a displacement exactly when only the
  one box has changed, and by that displacement.

Coordinates are exact numbers; what is said of maps holds over any.
-/

namespace GridLayout

/-! ## Displacements -/

namespace Coordinate

variable {α : Type} [Scalar α]

@[simp] theorem along_onAxis (axis : Axis) (v : α) : (onAxis axis v).along axis = v := by
  cases axis <;> rfl

@[simp] theorem along_other_onAxis (axis : Axis) (v : α) :
    (onAxis axis v).along axis.other = Scalar.zero := by
  cases axis <;> rfl

omit [Scalar α] in
/-- Coordinates with the same component along each axis are the same. -/
theorem ext_along {a b : Coordinate α} (h : ∀ axis, a.along axis = b.along axis) : a = b := by
  ext
  · exact h .x
  · exact h .y

omit [Scalar α] in
/-- Coordinates with the same components along one axis and along the other are the same. -/
theorem ext_along_other {a b : Coordinate α} (axis : Axis) (h : a.along axis = b.along axis)
    (hother : a.along axis.other = b.along axis.other) : a = b := by
  cases axis with
  | x => exact Coordinate.ext h hother
  | y => exact Coordinate.ext hother h

end Coordinate

namespace GridBox

variable {b b' : GridBox Rat}

/-- **Every anchor of a box moves as the box does.** -/
theorem anchor_translate (b : GridBox Rat) (d : Coordinate Rat) (a : Anchor) :
    (b.translate d).anchor a = b.anchor a + d := by
  have hcomm : ∀ c : Coordinate Rat, b.origin + d + c = b.origin + c + d := by
    intro c
    ext
    · exact add_right_comm _ _ _
    · exact add_right_comm _ _ _
  cases a with
  | bottomLeft => rfl
  | bottomRight | topLeft | topRight | center => exact hcomm _

theorem translate_inj {d e : Coordinate Rat} : b.translate d = b.translate e ↔ d = e := by
  constructor
  · intro h
    refine Coordinate.ext_along fun axis => ?_
    have horigin : (b.origin + d).along axis = (b.origin + e).along axis :=
      congrArg (fun c : GridBox Rat => c.origin.along axis) h
    rw [Coordinate.along_add, Coordinate.along_add] at horigin
    exact add_left_cancel horigin
  · rintro rfl
    rfl

/-- A box of the same extent is the same box, moved. -/
theorem eq_translate (hdiag : b'.diagonal = b.diagonal) :
    b' = b.translate (b'.origin - b.origin) := by
  refine ext_along (fun axis => ?_) fun axis => by rw [hdiag, diagonal_translate]
  rw [origin_translate, Coordinate.along_add, Coordinate.along_sub]
  exact (add_sub_cancel _ _).symm

/-- **A box is where one of its anchors is.** -/
theorem eq_translate_iff_anchor (hdiag : b'.diagonal = b.diagonal) (a : Anchor)
    (q : Coordinate Rat) : b' = b.translate (q - b.anchor a) ↔ b'.anchor a = q := by
  rw [eq_translate hdiag, translate_inj, anchor_translate]
  generalize b'.origin - b.origin = d
  constructor
  · rintro rfl
    refine Coordinate.ext_along fun axis => ?_
    rw [Coordinate.along_add, Coordinate.along_sub]
    exact add_sub_cancel _ _
  · rintro rfl
    refine Coordinate.ext_along fun axis => ?_
    rw [Coordinate.along_sub, Coordinate.along_add]
    exact (add_sub_cancel_left _ _).symm

/-- **A box is moved along one axis** when it stays where it was along the other. -/
theorem eq_translate_onAxis_iff (hdiag : b'.diagonal = b.diagonal) (axis : Axis) (a : Anchor)
    (v : Rat) :
    b' = b.translate (Coordinate.onAxis axis (v - (b.anchor a).along axis)) ↔
      (b'.anchor a).along axis = v ∧
        b'.origin.along axis.other = b.origin.along axis.other := by
  rw [eq_translate hdiag, translate_inj, anchor_translate, origin_translate, Coordinate.along_add,
    Coordinate.along_add]
  generalize b'.origin - b.origin = d
  constructor
  · rintro rfl
    rw [Coordinate.along_onAxis, Coordinate.along_other_onAxis]
    exact ⟨add_sub_cancel _ _, add_zero _⟩
  · rintro ⟨hline, hstays⟩
    refine Coordinate.ext_along_other axis ?_ ?_
    · rw [Coordinate.along_onAxis]
      exact eq_sub_of_add_eq' hline
    · rw [Coordinate.along_other_onAxis]
      exact add_eq_left.mp hstays

end GridBox

/-! ## One box moves -/

/-- One box has changed its place, and nothing else has changed: not the ids and their order, not
the extent of any box, and not where any other box is. -/
structure BoxMap.OnlyMoves {α : Type} [Scalar α] (boxId : String) (boxes moved : BoxMap α) :
    Prop where
  extents : BoxMap.extents moved = BoxMap.extents boxes
  others : ∀ id, id ≠ boxId → moved.get? id = boxes.get? id

namespace BoxMap

theorem OnlyMoves.refl {α : Type} [Scalar α] (boxId : String) (boxes : BoxMap α) :
    OnlyMoves boxId boxes boxes := ⟨rfl, fun _ _ => rfl⟩

theorem OnlyMoves.diagonal_eq {α : Type} [Scalar α] {boxId : String} {boxes moved : BoxMap α}
    {b b' : GridBox α} (h : OnlyMoves boxId boxes moved) (hbox : boxes.get? boxId = some b)
    (hmoved : moved.get? boxId = some b') : b'.diagonal = b.diagonal := by
  have hdiag := congrArg (fun m : IdMap (Coordinate α) => m.get? boxId) h.extents
  dsimp only [BoxMap.extents] at hdiag
  rw [IdMap.get?_map, IdMap.get?_map, hbox, hmoved] at hdiag
  exact Option.some.inj hdiag

end BoxMap

section

variable {α : Type} [Scalar α] {boxes : BoxMap α} {boxId : String}

theorem Motion.get?_shift (boxId : String) (d : Coordinate α) (boxes : BoxMap α) (id : String) :
    ((Motion.shift boxId d).apply boxes).get? id =
      (boxes.get? id).map fun b => if id = boxId then b.translate d else b := by
  rw [Motion.apply, IdMap.modify_eq_mapEntries]
  exact IdMap.get?_mapEntries _ _ _

theorem Motion.onlyMoves_shift (boxId : String) (d : Coordinate α) (boxes : BoxMap α) :
    BoxMap.OnlyMoves boxId boxes ((Motion.shift boxId d).apply boxes) where
  extents := Motion.extents_apply _ _
  others id hne := by
    simp only [get?_shift, if_neg hne, Option.map_id']

theorem Motion.get?_shift_self {b : GridBox α} (h : boxes.get? boxId = some b) (d : Coordinate α) :
    ((Motion.shift boxId d).apply boxes).get? boxId = some (b.translate d) := by
  rw [get?_shift, h, Option.map_some, if_pos rfl]

/-- **A displacement is known by what it does to its box**, since it does nothing else. -/
theorem Motion.shift_apply_eq_iff {b : GridBox α} (h : boxes.get? boxId = some b)
    {d : Coordinate α} {moved : BoxMap α} :
    (Motion.shift boxId d).apply boxes = moved ↔
      BoxMap.OnlyMoves boxId boxes moved ∧ moved.get? boxId = some (b.translate d) := by
  have hshift := Motion.onlyMoves_shift boxId d boxes
  constructor
  · rintro rfl
    exact ⟨hshift, get?_shift_self h d⟩
  · rintro ⟨honly, hmoved⟩
    refine IdMap.ext_get? ?_ fun id => ?_
    · exact BoxMap.keys_eq_of_extents_eq (hshift.extents.trans honly.extents.symm)
    · by_cases hid : id = boxId
      · rw [hid, get?_shift_self h, hmoved]
      · rw [hshift.others id hid, honly.others id hid]

end

end GridLayout
