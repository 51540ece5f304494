import GridLayout.Arrange.Bounds
import GridLayout.Proofs.IdMap
import Mathlib.Algebra.Order.Ring.Rat
import Mathlib.Tactic.Linarith

/-!
# Boxes inside boxes, in exact numbers

Over the rationals the operations of a layout are those of an ordered field, and they act on each
axis apart from the other.  So everything is said once, along an axis: the `along_…` lemmas take a
coordinate apart, and `GridBox.Within` compares two boxes on every axis.

* `isGreatest_foldl`, `Coordinate.isLeast_foldl_min`: what the folds of a solve end at.
* `GridBox.diagonal_nonneg`: no box has an extent below zero, since diagonals are absolute values.
* `GridBox.within_union_left`, `GridBox.within_union_right`: a union covers both boxes.  The stored
  diagonal of a union is an absolute value; it is never shorter than the difference it is taken of,
  which is all that covering needs.
* `GridBox.union_within`: no smaller box covers both.  Here the stored diagonal has to be the very
  difference that it is taken of, and it is, because no box has an extent below zero.
* `exists_enclosing?`, `enclosing?_within`: the smallest box around some boxes covers each of them,
  and no smaller box does.
* `LocalBoxes.within_bounds`: so does the bounding box of a section, at every breakpoint.
-/

namespace GridLayout

/-! ## One axis at a time -/

namespace Coordinate

variable {α : Type} [Scalar α]

@[simp] theorem along_zero (axis : Axis) : (zero : Coordinate α).along axis = Scalar.zero := by
  cases axis <;> rfl

@[simp] theorem along_add (a b : Coordinate α) (axis : Axis) :
    (a + b).along axis = a.along axis + b.along axis := by
  cases axis <;> rfl

@[simp] theorem along_sub (a b : Coordinate α) (axis : Axis) :
    (a - b).along axis = a.along axis - b.along axis := by
  cases axis <;> rfl

@[simp] theorem along_min (a b : Coordinate α) (axis : Axis) :
    (a.min b).along axis = Scalar.min (a.along axis) (b.along axis) := by
  cases axis <;> rfl

@[simp] theorem along_max (a b : Coordinate α) (axis : Axis) :
    (a.max b).along axis = Scalar.max (a.along axis) (b.along axis) := by
  cases axis <;> rfl

@[simp] theorem along_abs (a : Coordinate α) (axis : Axis) :
    a.abs.along axis = Scalar.abs (a.along axis) := by
  cases axis <;> rfl

end Coordinate

/-! ## Exact numbers -/

namespace Scalar

theorem min_rat (a b : Rat) : Scalar.min a b = Min.min a b := by
  show (if decide (b < a) then b else a) = Min.min a b
  rcases lt_or_ge b a with h | h
  · rw [if_pos (decide_eq_true h), min_eq_right h.le]
  · rw [if_neg (by simpa using h), min_eq_left h]

theorem max_rat (a b : Rat) : Scalar.max a b = Max.max a b := by
  show (if decide (a < b) then b else a) = Max.max a b
  rcases lt_or_ge a b with h | h
  · rw [if_pos (decide_eq_true h), max_eq_right h.le]
  · rw [if_neg (by simpa using h), max_eq_left h]

theorem abs_rat (a : Rat) : Scalar.abs a = |a| := by
  show Rat.abs a = |a|
  rcases le_total 0 a with h | h
  · rw [Rat.abs_of_nonneg h, abs_of_nonneg h]
  · rw [Rat.abs_of_nonpos h, abs_of_nonpos h]

end Scalar

/-- A fold that keeps the greater of two values on a scale ends at the greatest value there is. -/
theorem isGreatest_foldl {β γ δ : Type} [LinearOrder γ] {f : β → γ} {k : δ → γ} {g : β → δ → β}
    (hg : ∀ a d, f (g a d) = Max.max (f a) (k d)) :
    ∀ (l : List δ) (c : β), IsGreatest {v | v = f c ∨ ∃ d ∈ l, v = k d} (f (l.foldl g c))
  | [], c => by
    refine ⟨Or.inl rfl, ?_⟩
    rintro v (rfl | ⟨d, hd, -⟩)
    · exact le_rfl
    · exact absurd hd List.not_mem_nil
  | e :: l, c => by
    obtain ⟨hmem, hub⟩ := isGreatest_foldl hg l (g c e)
    have hstart : f (g c e) ≤ f (l.foldl g (g c e)) := hub (Or.inl rfl)
    rw [hg] at hstart
    rw [List.foldl_cons]
    constructor
    · rcases hmem with heq | ⟨d, hd, heq⟩
      · rw [hg] at heq
        rcases max_choice (f c) (k e) with h | h
        · exact Or.inl (heq.trans h)
        · exact Or.inr ⟨e, List.mem_cons_self, heq.trans h⟩
      · exact Or.inr ⟨d, List.mem_cons_of_mem _ hd, heq⟩
    · rintro v (rfl | ⟨d, hd, rfl⟩)
      · exact (le_max_left _ _).trans hstart
      · rcases List.mem_cons.mp hd with rfl | hd
        · exact (le_max_right _ _).trans hstart
        · exact hub (Or.inr ⟨d, hd, rfl⟩)

/-- The least component of some coordinates along an axis. -/
theorem Coordinate.isLeast_foldl_min (l : List (Coordinate Rat)) (c : Coordinate Rat)
    (axis : Axis) :
    IsLeast {v | v = c.along axis ∨ ∃ d ∈ l, v = d.along axis}
      ((l.foldl Coordinate.min c).along axis) :=
  isGreatest_foldl (γ := Ratᵒᵈ) (f := fun d : Coordinate Rat => OrderDual.toDual (d.along axis))
    (fun a b => (along_min a b axis).trans (Scalar.min_rat _ _)) l c

/-! ## Covering -/

namespace GridBox

@[simp] theorem along_farCorner {α : Type} [Scalar α] (b : GridBox α) (axis : Axis) :
    b.farCorner.along axis = b.origin.along axis + b.diagonal.along axis :=
  Coordinate.along_add _ _ axis

/-- Boxes with the same origin and the same diagonal along each axis are the same. -/
theorem ext_along {a b : GridBox Rat} (horigin : ∀ axis, a.origin.along axis = b.origin.along axis)
    (hdiagonal : ∀ axis, a.diagonal.along axis = b.diagonal.along axis) : a = b := by
  ext
  · exact horigin .x
  · exact horigin .y
  · exact hdiagonal .x
  · exact hdiagonal .y

/-- **No box has an extent below zero.** -/
theorem diagonal_nonneg (b : GridBox Rat) (axis : Axis) : 0 ≤ b.diagonal.along axis := by
  obtain ⟨extent, h⟩ := b.exists_abs_eq
  rw [← h, Coordinate.along_abs, Scalar.abs_rat]
  exact abs_nonneg _

/-- So no box ends before it starts. -/
theorem along_origin_le_farCorner (b : GridBox Rat) (axis : Axis) :
    b.origin.along axis ≤ b.farCorner.along axis := by
  rw [along_farCorner]
  exact le_add_of_nonneg_right (b.diagonal_nonneg axis)

/-- One box lies inside another: on no axis does it start before it or reach beyond it. -/
structure Within (inner outer : GridBox Rat) : Prop where
  origin_le : ∀ axis, outer.origin.along axis ≤ inner.origin.along axis
  far_le : ∀ axis, inner.farCorner.along axis ≤ outer.farCorner.along axis

theorem Within.refl (b : GridBox Rat) : b.Within b := ⟨fun _ => le_rfl, fun _ => le_rfl⟩

theorem Within.trans {a b c : GridBox Rat} (hab : a.Within b) (hbc : b.Within c) : a.Within c where
  origin_le axis := (hbc.origin_le axis).trans (hab.origin_le axis)
  far_le axis := (hab.far_le axis).trans (hbc.far_le axis)

/-- The corners of a union: the lesser origin, and a far corner no nearer than either. -/
theorem along_origin_union (a b : GridBox Rat) (axis : Axis) :
    (a.union b).origin.along axis = Min.min (a.origin.along axis) (b.origin.along axis) := by
  rw [union, new, Coordinate.along_min, Scalar.min_rat]

theorem along_diagonal_union (a b : GridBox Rat) (axis : Axis) :
    (a.union b).diagonal.along axis =
      |Max.max (a.farCorner.along axis) (b.farCorner.along axis) -
        Min.min (a.origin.along axis) (b.origin.along axis)| := by
  rw [union, new, Coordinate.along_abs, Scalar.abs_rat, Coordinate.along_sub, Coordinate.along_max,
    Scalar.max_rat, Coordinate.along_min, Scalar.min_rat]

theorem le_along_farCorner_union (a b : GridBox Rat) (axis : Axis) :
    Max.max (a.farCorner.along axis) (b.farCorner.along axis) ≤
      (a.union b).farCorner.along axis := by
  rw [along_farCorner (a.union b), along_diagonal_union, along_origin_union]
  have h := le_abs_self (Max.max (a.farCorner.along axis) (b.farCorner.along axis) -
    Min.min (a.origin.along axis) (b.origin.along axis))
  linarith

/-- **A union covers its first box.** -/
theorem within_union_left (a b : GridBox Rat) : a.Within (a.union b) where
  origin_le axis := (along_origin_union a b axis).le.trans (min_le_left _ _)
  far_le axis := (le_max_left _ _).trans (le_along_farCorner_union a b axis)

/-- **A union covers its second box.** -/
theorem within_union_right (a b : GridBox Rat) : b.Within (a.union b) where
  origin_le axis := (along_origin_union a b axis).le.trans (min_le_right _ _)
  far_le axis := (le_max_right _ _).trans (le_along_farCorner_union a b axis)

/-- A union over a list covers the box it started from and every box of the list. -/
theorem within_foldl_union {b : GridBox Rat} :
    ∀ (l : List (GridBox Rat)) (e : GridBox Rat), b.Within e ∨ b ∈ l → b.Within (l.foldl union e)
  | [], _, h => h.resolve_right List.not_mem_nil
  | c :: l, e, h => by
    rw [List.foldl_cons]
    refine within_foldl_union l (e.union c) ?_
    rcases h with h | h
    · exact Or.inl (h.trans (within_union_left e c))
    · rcases List.mem_cons.mp h with rfl | h
      · exact Or.inl (within_union_right e b)
      · exact Or.inr h

theorem Within.antisymm {a b : GridBox Rat} (hab : a.Within b) (hba : b.Within a) : a = b := by
  have horigin : ∀ axis, a.origin.along axis = b.origin.along axis := fun axis =>
    (hba.origin_le axis).antisymm (hab.origin_le axis)
  refine ext_along horigin fun axis => ?_
  have hfar := (hab.far_le axis).antisymm (hba.far_le axis)
  rw [along_farCorner, along_farCorner, horigin axis] at hfar
  exact add_left_cancel hfar

/-- **A union is the smallest box around two boxes.** -/
theorem union_within {a b outer : GridBox Rat} (ha : a.Within outer) (hb : b.Within outer) :
    (a.union b).Within outer where
  origin_le axis := by
    rw [along_origin_union]
    exact le_min (ha.origin_le axis) (hb.origin_le axis)
  far_le axis := by
    have hspan : Min.min (a.origin.along axis) (b.origin.along axis) ≤
        Max.max (a.farCorner.along axis) (b.farCorner.along axis) :=
      (min_le_left _ _).trans ((a.along_origin_le_farCorner axis).trans (le_max_left _ _))
    rw [along_farCorner (a.union b), along_diagonal_union, along_origin_union,
      abs_of_nonneg (sub_nonneg.mpr hspan), add_sub_cancel]
    exact max_le (ha.far_le axis) (hb.far_le axis)

/-- A union over a list is the smallest box around the box it started from and the boxes of the
list. -/
theorem foldl_union_within {outer : GridBox Rat} :
    ∀ (l : List (GridBox Rat)) (e : GridBox Rat), e.Within outer → (∀ b ∈ l, b.Within outer) →
      (l.foldl union e).Within outer
  | [], _, he, _ => he
  | c :: l, e, he, hl => by
    rw [List.forall_mem_cons] at hl
    rw [List.foldl_cons]
    exact foldl_union_within l (e.union c) (union_within he hl.1) hl.2

end GridBox

/-! ## Bounding boxes -/

/-- **The smallest box around some boxes covers each of them.** -/
theorem exists_enclosing? {boxes : BoxMap Rat} {b : GridBox Rat} (hb : b ∈ boxes.values) :
    ∃ e, enclosing? boxes = some e ∧ b.Within e := by
  rw [enclosing?]
  cases hv : boxes.values with
  | nil =>
    rw [hv] at hb
    exact absurd hb List.not_mem_nil
  | cons c rest =>
    rw [hv] at hb
    refine ⟨rest.foldl GridBox.union c, rfl, GridBox.within_foldl_union rest c ?_⟩
    rcases List.mem_cons.mp hb with rfl | hb
    · exact Or.inl (GridBox.Within.refl b)
    · exact Or.inr hb

/-- **There is no smaller box around some boxes.** -/
theorem enclosing?_within {boxes : BoxMap Rat} {e outer : GridBox Rat}
    (he : enclosing? boxes = some e) (houter : ∀ b ∈ boxes.values, b.Within outer) :
    e.Within outer := by
  rw [enclosing?] at he
  cases hv : boxes.values with
  | nil =>
    rw [hv] at he
    exact nomatch he
  | cons c rest =>
    rw [hv] at he houter
    rw [List.forall_mem_cons] at houter
    rw [← Option.some.inj he]
    exact GridBox.foldl_union_within rest c houter.1 houter.2

/-- **The bounding box of a section covers its boxes**, at every breakpoint. -/
theorem LocalBoxes.within_bounds (boxes : LocalBoxes Rat) (bp : Breakpoint) {b : GridBox Rat}
    (hb : b ∈ (boxes.get bp).values) : b.Within ((LocalBoxes.bounds boxes).get bp) := by
  obtain ⟨e, he, hw⟩ := exists_enclosing? hb
  rw [LocalBoxes.bounds, Bps.get_map, he]
  exact hw

end GridLayout
