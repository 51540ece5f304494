import GridLayout.Proofs.Arguments
import GridLayout.Proofs.Displacement

/-!
# Moves and alignments land where they say

An operation on one box is carried out as a displacement of that box.  What it is meant to do is put
an anchor of the box on a point, or on a line, or move its origin by an amount.  `Operation.Lands`
says the latter of the boxes before and after, without a word about displacements, and
`Operation.run_lands` says that it comes to the same: the operation succeeds, and leads to certain
boxes, exactly when these are boxes on which it has landed.

* `Operation.lands_of_run`, `Operation.Lands.run_eq_ok`: the two directions.
* `Operation.Lands.again`: an operation that aims at something other than the box it moves has
  landed on the boxes that it leads to, so carrying it out again moves nothing.

Everything is in exact numbers.
-/

namespace GridLayout

/-! ## Where operations land -/

/-- A target that is not on the box that has moved stands for the point that it stood for. -/
theorem Target.StandsFor.of_onlyMoves {boxes moved : BoxMap Rat} {boxId : String}
    {t : Target Rat} {p : Coordinate Rat} (h : t.StandsFor boxes p)
    (honly : BoxMap.OnlyMoves boxId boxes moved)
    (hother : ∀ r, t = .anchor r → r.boxId ≠ boxId) : t.StandsFor moved p := by
  cases h with
  | point => exact .point p
  | value v => exact .value v
  | @anchor id b a hbox => exact .anchor a ((honly.others id (hother _ rfl)).trans hbox)

namespace Operation

/-- An operation moves one box that it names, if it can be carried out. -/
def movesOneBox {α : Type} : Operation α → Bool
  | .moveTo .. => true
  | .moveBy .. => true
  | .align .. => true
  | .alignAll .. => false
  | .stack .. => false

/-- An operation has landed: from some boxes to others only the box that it names has changed its
place, and it is where it was to go. -/
inductive Lands (boxes moved : BoxMap Rat) : Operation Rat → Prop
  /-- An anchor of the box is on the target plus the gap. -/
  | moveTo {id : String} {a : Anchor} {target : Target Rat} {gap : Option (Offset Rat)}
    {p g : Coordinate Rat} {b b' : GridBox Rat} (hbox : boxes.get? id = some b)
    (htarget : target.StandsFor boxes p)
    (hgap : (gap.getD (.vector Coordinate.zero)).StandsFor g)
    (hmoved : moved.get? id = some b') (honly : BoxMap.OnlyMoves id boxes moved)
    (hland : b'.anchor a = p + g) :
    Lands boxes moved (.moveTo (.valid ⟨id, a.name⟩) target gap)
  /-- The origin of the box is as far from where it was as the displacement plus the gap. -/
  | moveBy {id : String} {displacement : Offset Rat} {gap : Option (Offset Rat)}
    {d g : Coordinate Rat} {b b' : GridBox Rat} (hbox : boxes.get? id = some b)
    (hdisplacement : displacement.StandsFor d)
    (hgap : (gap.getD (.vector Coordinate.zero)).StandsFor g)
    (hmoved : moved.get? id = some b') (honly : BoxMap.OnlyMoves id boxes moved)
    (hland : b'.origin = b.origin + (d + g)) :
    Lands boxes moved (.moveBy (.valid ⟨id⟩) displacement gap)
  /-- Along the axis an anchor of the box is on the target plus the gap; along the other axis the
  box is where it was. -/
  | align {axis : Axis} {id : String} {a : Anchor} {target : Target Rat}
    {gap : Option (Param Rat Rat)} {p : Coordinate Rat} {g : Rat} {b b' : GridBox Rat}
    (hbox : boxes.get? id = some b) (htarget : target.StandsFor boxes p)
    (hgap : gap.getD (.valid 0) = .valid g)
    (hmoved : moved.get? id = some b') (honly : BoxMap.OnlyMoves id boxes moved)
    (hland : (b'.anchor a).along axis = p.along axis + g)
    (hstays : b'.origin.along axis.other = b.origin.along axis.other) :
    Lands boxes moved (.align axis (.valid ⟨id, a.name⟩) target gap)

variable {boxes moved : BoxMap Rat}

/-! ## Landing -/

/-- An operation that succeeds has landed. -/
theorem lands_of_run {op : Operation Rat} (hone : op.movesOneBox = true)
    (hrun : op.run boxes = .ok moved) : op.Lands boxes moved := by
  obtain ⟨m, hcheck, happly⟩ := run_eq_ok_iff.mp hrun
  cases op with
  | moveTo source target gap =>
    obtain ⟨id, a, b, p, g, rfl, hbox, htarget, hgap, rfl⟩ := check_moveTo_eq_ok_iff.mp hcheck
    obtain ⟨honly, hmoved⟩ := (Motion.shift_apply_eq_iff hbox).mp happly
    exact .moveTo hbox htarget hgap hmoved honly
      ((GridBox.eq_translate_iff_anchor (honly.diagonal_eq hbox hmoved) a (p + g)).mp rfl)
  | moveBy source displacement gap =>
    obtain ⟨id, b, d, g, rfl, hbox, hd, hgap, rfl⟩ := check_moveBy_eq_ok_iff.mp hcheck
    obtain ⟨honly, hmoved⟩ := (Motion.shift_apply_eq_iff hbox).mp happly
    exact .moveBy hbox hd hgap hmoved honly rfl
  | align axis source target gap =>
    obtain ⟨id, a, b, p, g, rfl, hbox, htarget, hgap, rfl⟩ := check_align_eq_ok_iff.mp hcheck
    obtain ⟨honly, hmoved⟩ := (Motion.shift_apply_eq_iff hbox).mp happly
    obtain ⟨hland, hstays⟩ := (GridBox.eq_translate_onAxis_iff
      (honly.diagonal_eq hbox hmoved) axis a (p.along axis + g)).mp rfl
    exact .align hbox htarget hgap hmoved honly hland hstays
  | alignAll => exact nomatch hone
  | stack => exact nomatch hone

/-- An operation that has landed is one that succeeds: its box has the extent that it had, so it is
where its displacement takes it. -/
theorem Lands.run_eq_ok {op : Operation Rat} (h : op.Lands boxes moved) :
    op.run boxes = .ok moved := by
  rw [run_eq_ok_iff]
  cases h with
  | @moveTo id a target gap p g b b' hbox htarget hgap hmoved honly hland =>
    refine ⟨_, check_moveTo_eq_ok_iff.mpr ⟨id, a, b, p, g, rfl, hbox, htarget, hgap, rfl⟩, ?_⟩
    rw [Motion.shift_apply_eq_iff hbox, hmoved]
    exact ⟨honly, congrArg some ((GridBox.eq_translate_iff_anchor
      (honly.diagonal_eq hbox hmoved) a (p + g)).mpr hland)⟩
  | @moveBy id displacement gap d g b b' hbox hd hgap hmoved honly hland =>
    refine ⟨_, check_moveBy_eq_ok_iff.mpr ⟨id, b, d, g, rfl, hbox, hd, hgap, rfl⟩, ?_⟩
    have hdiag : b'.diagonal = b.diagonal := honly.diagonal_eq hbox hmoved
    have hbox' : b' = b.translate (d + g) := GridBox.ext hland hdiag
    rw [Motion.shift_apply_eq_iff hbox, hmoved, hbox']
    exact ⟨honly, rfl⟩
  | @align axis id a target gap p g b b' hbox htarget hgap hmoved honly hland hstays =>
    refine ⟨_, check_align_eq_ok_iff.mpr ⟨id, a, b, p, g, rfl, hbox, htarget, hgap, rfl⟩, ?_⟩
    rw [Motion.shift_apply_eq_iff hbox, hmoved]
    exact ⟨honly, congrArg some ((GridBox.eq_translate_onAxis_iff
      (honly.diagonal_eq hbox hmoved) axis a (p.along axis + g)).mpr ⟨hland, hstays⟩)⟩

/-! ## Landing again -/

/-- An operation puts a box on a target that is not an anchor of that box. -/
inductive AimsElsewhere {α : Type} : Operation α → Prop
  | moveTo {r : AnchorRef} {target : Target α} {gap : Option (Offset α)}
    (h : ∀ t, target = .anchor t → t.boxId ≠ r.boxId) :
    AimsElsewhere (.moveTo (.valid r) target gap)
  | align {axis : Axis} {r : AnchorRef} {target : Target α} {gap : Option (Param α α)}
    (h : ∀ t, target = .anchor t → t.boxId ≠ r.boxId) :
    AimsElsewhere (.align axis (.valid r) target gap)

/-- What such an operation has landed on is where it would land from there: the target has not
moved with the box. -/
theorem Lands.again {op : Operation Rat} (h : op.Lands boxes moved) (haim : op.AimsElsewhere) :
    op.Lands moved moved := by
  cases h with
  | @moveTo id a target gap p g b b' hbox htarget hgap hmoved honly hland =>
    cases haim with
    | moveTo hother =>
      exact .moveTo hmoved (htarget.of_onlyMoves honly hother) hgap hmoved (.refl id moved) hland
  | moveBy => exact nomatch haim
  | @align axis id a target gap p g b b' hbox htarget hgap hmoved honly hland hstays =>
    cases haim with
    | align hother =>
      exact .align hmoved (htarget.of_onlyMoves honly hother) hgap hmoved (.refl id moved) hland
        rfl

/-- **Moves and alignments land where they say.**  An operation on one box leads to certain boxes
exactly when it has landed on them: the box that it names is where it was to go, measured against
the target as it stood before, and nothing else has changed.  When it aims at something other than
an anchor of that box, carrying it out again changes nothing. -/
theorem run_lands {op : Operation Rat} (hone : op.movesOneBox = true) :
    (op.run boxes = .ok moved ↔ op.Lands boxes moved) ∧
      (op.run boxes = .ok moved → op.AimsElsewhere → op.run moved = .ok moved) := by
  refine ⟨⟨lands_of_run hone, Lands.run_eq_ok⟩, fun hrun haim => ?_⟩
  exact ((lands_of_run hone hrun).again haim).run_eq_ok

/-- A wide box and a tall one, with their origins where they are asked for. -/
def wideAndTall (wide tall : Coordinate Rat) : BoxMap Rat :=
  IdMap.ofList [("wide", .new wide ⟨4, 1⟩), ("tall", .new tall ⟨1, 3⟩)]

/-- Puts the far corner of the tall box on the centre of the wide one, and half a unit back. -/
def tallToCentre : Operation Rat :=
  .moveTo (.valid ⟨"tall", "topRight"⟩) (.anchor ⟨"wide", "center"⟩) (some (.uniform (-1 / 2)))

theorem tallToCentre_lands :
    tallToCentre.movesOneBox = true ∧
      tallToCentre.run (wideAndTall ⟨1, 1⟩ ⟨-7, 1 / 3⟩) = .ok (wideAndTall ⟨1, 1⟩ ⟨3 / 2, -2⟩) ∧
      tallToCentre.Lands (wideAndTall ⟨1, 1⟩ ⟨-7, 1 / 3⟩) (wideAndTall ⟨1, 1⟩ ⟨3 / 2, -2⟩) ∧
      tallToCentre.AimsElsewhere ∧
      tallToCentre.run (wideAndTall ⟨1, 1⟩ ⟨3 / 2, -2⟩) =
        .ok (wideAndTall ⟨1, 1⟩ ⟨3 / 2, -2⟩) := by
  have hrun : tallToCentre.run (wideAndTall ⟨1, 1⟩ ⟨-7, 1 / 3⟩) =
      .ok (wideAndTall ⟨1, 1⟩ ⟨3 / 2, -2⟩) := eq_ok_of_toOption (by decide +kernel)
  have haim : tallToCentre.AimsElsewhere := .moveTo fun t ht => by
    cases ht
    decide
  obtain ⟨hlands, hagain⟩ := @run_lands (wideAndTall ⟨1, 1⟩ ⟨-7, 1 / 3⟩)
    (wideAndTall ⟨1, 1⟩ ⟨3 / 2, -2⟩) tallToCentre rfl
  exact ⟨rfl, hrun, hlands.mp hrun, haim, hagain hrun haim⟩

end Operation

end GridLayout
