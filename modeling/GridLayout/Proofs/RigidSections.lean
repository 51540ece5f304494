import GridLayout.Proofs.Arguments
import GridLayout.Proofs.Displacement
import GridLayout.Proofs.LeastBounds
import GridLayout.Proofs.Rebasing
import Mathlib.Order.Bounds.OrderIso

/-!
# Sections move as rigid bodies

Once a section is arranged, its boxes do not move against each other any more.  The operations of
the layout move bounding boxes; a box goes the way of the bounding box of its section, and after
that all boxes of all sections go by the shift of the breakpoint.  So one displacement takes a whole
section from its own coordinates to the grid (`area?_assemble_of_placed`).

Displacements keep the order of inclusion in both directions, and so does the step from boxes to
areas.  Not every area is that of a box, since areas can be written that end before they start, but
every area is that covers one (`GridArea.exists_ofBox_eq`).  So least upper bounds go along with
either: what is published of a section has, as the smallest area around it, the arranged bounding
box of the section, shifted.  This is why an anchor of a section, which the operations of a layout
read off its arranged bounding box, means the anchor of what is published.

* `GridBox.displace`, `GridArea.ofBoxEmbedding`: displacements, and boxes as areas, as isomorphism
  and embedding of orders.
* `GridArea.isLUB_ofBox`: the smallest area around some boxes.
* `areasOf_eq_image`: the areas of a section are its boxes, all gone the same way.
* `isLUB_areas`: the smallest area around the areas of a section.
* `sections_rigid`: where the boxes of a section are published, and what anchors of it refer to.
-/

namespace GridLayout

/-! ## Boxes and areas -/

/-- Areas are ordered by inclusion. -/
instance : PartialOrder (GridArea Rat) where
  le a b := ∀ axis, b.start.along axis ≤ a.start.along axis ∧
    a.finish.along axis ≤ b.finish.along axis
  le_refl _ _ := ⟨le_rfl, le_rfl⟩
  le_trans _ _ _ hab hbc axis :=
    ⟨(hbc axis).1.trans (hab axis).1, (hab axis).2.trans (hbc axis).2⟩
  le_antisymm _ _ hab hba :=
    GridArea.ext ((hba .x).1.antisymm (hab .x).1) ((hab .x).2.antisymm (hba .x).2)
      ((hba .y).1.antisymm (hab .y).1) ((hab .y).2.antisymm (hba .y).2)

namespace GridArea

/-- Boxes as areas: the same rectangles, written in another way. -/
def ofBoxEmbedding : GridBox Rat ↪o GridArea Rat :=
  OrderEmbedding.ofMapLEIff GridArea.ofBox fun a b => by
    constructor
    · intro h
      exact ⟨fun axis => (h axis).1, fun axis => (h axis).2⟩
    · intro h axis
      exact ⟨h.origin_le axis, h.far_le axis⟩

/-- An area that covers a box ends where it starts or after that, so it is the area of a box. -/
theorem exists_ofBox_eq {b : GridBox Rat} {a : GridArea Rat} (h : GridArea.ofBox b ≤ a) :
    ∃ c : GridBox Rat, GridArea.ofBox c = a := by
  have hspan : ∀ axis, a.start.along axis ≤ a.finish.along axis := fun axis =>
    (h axis).1.trans ((b.along_origin_le_farCorner axis).trans (h axis).2)
  have hfinish : ∀ axis, (GridBox.new a.start (a.finish - a.start)).farCorner.along axis =
      a.finish.along axis := by
    intro axis
    rw [GridBox.along_farCorner, GridBox.new, Coordinate.along_abs, Scalar.abs_rat,
      Coordinate.along_sub, abs_of_nonneg (sub_nonneg.mpr (hspan axis)), add_sub_cancel]
  exact ⟨GridBox.new a.start (a.finish - a.start),
    GridArea.ext rfl (hfinish .x) rfl (hfinish .y)⟩

/-- **The smallest area around some boxes** is that of the smallest box around them. -/
theorem isLUB_ofBox {boxes : Set (GridBox Rat)} (hne : boxes.Nonempty) {e : GridBox Rat}
    (h : IsLUB boxes e) : IsLUB (GridArea.ofBox '' boxes) (GridArea.ofBox e) := by
  constructor
  · exact ofBoxEmbedding.monotone.mem_upperBounds_image h.1
  · intro a ha
    have habove : ∀ b ∈ boxes, GridArea.ofBox b ≤ a := fun b hb => ha (Set.mem_image_of_mem _ hb)
    obtain ⟨b, hb⟩ := hne
    obtain ⟨c, rfl⟩ := exists_ofBox_eq (habove b hb)
    exact ofBoxEmbedding.le_iff_le.mpr (h.2 fun b hb => ofBoxEmbedding.le_iff_le.mp (habove b hb))

end GridArea

/-! ## Displacements -/

/-- Displacements take boxes to boxes, and the opposite displacement takes them back. -/
def GridBox.displace (d : Coordinate Rat) : GridBox Rat ≃o GridBox Rat where
  toFun b := b.translate d
  invFun b := b.translate (-d)
  left_inv b := GridBox.ext_along (fun axis => by cases axis <;> exact add_neg_cancel_right _ _)
    fun _ => rfl
  right_inv b := GridBox.ext_along (fun axis => by cases axis <;> exact neg_add_cancel_right _ _)
    fun _ => rfl
  map_rel_iff' := by
    intro a b
    have horigin : ∀ axis, (b.translate d).origin.along axis ≤ (a.translate d).origin.along axis ↔
        b.origin.along axis ≤ a.origin.along axis := by
      intro axis
      rw [origin_translate, origin_translate, Coordinate.along_add, Coordinate.along_add]
      exact add_le_add_iff_right _
    have hfar : ∀ axis, (a.translate d).farCorner.along axis ≤
        (b.translate d).farCorner.along axis ↔
          a.farCorner.along axis ≤ b.farCorner.along axis := by
      intro axis
      rw [along_farCorner_translate, along_farCorner_translate]
      exact add_le_add_iff_right _
    constructor
    · intro h
      exact ⟨fun axis => (horigin axis).mp (h.origin_le axis),
        fun axis => (hfar axis).mp (h.far_le axis)⟩
    · intro h
      exact ⟨fun axis => (horigin axis).mpr (h.origin_le axis),
        fun axis => (hfar axis).mpr (h.far_le axis)⟩

/-- The way of a box from its section to the grid: it goes by the displacement of its section, then
by the shift of the breakpoint. -/
def GridBox.ontoGrid (d shift : Coordinate Rat) : GridBox Rat ≃o GridBox Rat :=
  (displace d).trans (displace shift)

theorem GridBox.ontoGrid_apply (d shift : Coordinate Rat) (b : GridBox Rat) :
    ontoGrid d shift b = (b.translate d).translate shift := rfl

/-! ## Sections on the grid -/

/-- The bounding boxes of all sections at a breakpoint, each put on the first line. -/
def baselineBounds (sections : IdMap (LocalBoxes Rat)) (bp : Breakpoint) : BoxMap Rat :=
  (sectionBounds sections).1.map fun e => { e.get bp with origin := ⟨1, 1⟩ }

/-- The areas of a section of a plan at a breakpoint. -/
def GridPlan.areasOf (plan : GridPlan Rat) (sectionId : String) (bp : Breakpoint) :
    Set (GridArea Rat) :=
  {a | ∃ boxId, plan.area? sectionId bp boxId = some a}

section

variable {sections : IdMap (LocalBoxes Rat)} {schedule : Option (Schedule Rat)} {bp : Breakpoint}
  {sectionId : String} {s : LocalBoxes Rat}

/-- The operations of the layout start from bounding boxes on the first line. -/
theorem boxes_placementAt :
    (placementAt sections schedule bp).boxes =
      (Operation.runAll (Schedule.at? schedule bp) (baselineBounds sections bp)).1 := by
  rw [placementAt, boxes_positionSections, IdMap.map_map]
  rfl

variable (hs : sections.get? sectionId = some s) {placed : GridBox Rat}
  (hplaced : (Operation.runAll (Schedule.at? schedule bp) (baselineBounds sections bp)).1.get?
    sectionId = some placed)
include hs hplaced

/-- The arranged bounding box of a section has the extent of its bounding box, and the boxes of the
section are carried along with it. -/
theorem carry_of_placed :
    placed.diagonal = ((LocalBoxes.bounds s).get bp).diagonal ∧
      ∀ b : GridBox Rat, (placementAt sections schedule bp).carry sectionId b =
        { b with origin :=
            b.origin - ((LocalBoxes.bounds s).get bp).origin + placed.origin } := by
  obtain ⟨placed', hplaced', hdiag, hcarry⟩ := exists_placement hs schedule bp
  rw [boxes_placementAt] at hplaced'
  obtain rfl : placed' = placed := Option.some.inj (hplaced'.symm.trans hplaced)
  exact ⟨hdiag, hcarry⟩

/-- **Where the boxes of a section are published**: each has moved from where the bounding box was
to where it is, and by the shift of the breakpoint. -/
theorem area?_assemble_of_placed (boxId : String) :
    (assemble sections (sectionBounds sections).1 schedule).1.area? sectionId bp boxId =
      ((s.get bp).get? boxId).map fun b => GridArea.ofBox { b with
        origin := b.origin - ((LocalBoxes.bounds s).get bp).origin + placed.origin +
          (assemble sections (sectionBounds sections).1 schedule).1.normalization.get bp } := by
  rw [area?_assemble, normalization_assemble, AreaMap.area?, get?_unshiftedAt, hs,
    Option.map_some, Option.bind_some, IdMap.get?_map, Option.map_map]
  refine congrArg (fun f => Option.map f _) (funext fun b => ?_)
  rw [Function.comp_apply, (carry_of_placed hs hplaced).2, ← GridBox.ofBox_translate]
  rfl

/-- The areas of a section are its boxes, all gone the same way. -/
theorem areasOf_eq_image :
    (assemble sections (sectionBounds sections).1 schedule).1.areasOf sectionId bp =
      GridArea.ofBox '' (GridBox.ontoGrid (placed.origin - ((LocalBoxes.bounds s).get bp).origin)
        ((assemble sections (sectionBounds sections).1 schedule).1.normalization.get bp) ''
          {b | b ∈ (s.get bp).values}) := by
  have harea := area?_assemble_of_placed hs hplaced
  generalize (assemble sections (sectionBounds sections).1 schedule).1 = plan at harea ⊢
  have hway : ∀ b : GridBox Rat, GridArea.ofBox { b with
      origin := b.origin - ((LocalBoxes.bounds s).get bp).origin + placed.origin +
        plan.normalization.get bp } =
      GridArea.ofBox (GridBox.ontoGrid (placed.origin - ((LocalBoxes.bounds s).get bp).origin)
        (plan.normalization.get bp) b) := by
    intro b
    rw [GridBox.ontoGrid_apply, ← b.moved_eq_translate]
    rfl
  ext a
  constructor
  · rintro ⟨boxId, ha⟩
    rw [harea] at ha
    obtain ⟨b, hb, rfl⟩ := Option.map_eq_some_iff.mp ha
    exact ⟨_, ⟨b, IdMap.mem_values.mpr ⟨boxId, hb⟩, rfl⟩, (hway b).symm⟩
  · rintro ⟨_, ⟨b, hb, rfl⟩, rfl⟩
    obtain ⟨boxId, hid⟩ := IdMap.mem_values.mp hb
    refine ⟨boxId, ?_⟩
    rw [harea, hid, Option.map_some, hway]

/-- **The smallest area around the areas of a section** is its arranged bounding box, shifted: the
bounding box has gone the way of the boxes. -/
theorem isLUB_areas (hbox : (s.get bp).values ≠ []) :
    IsLUB ((assemble sections (sectionBounds sections).1 schedule).1.areasOf sectionId bp)
      (GridArea.ofBox (placed.translate
        ((assemble sections (sectionBounds sections).1 schedule).1.normalization.get bp))) := by
  have hhull : placed.translate
      ((assemble sections (sectionBounds sections).1 schedule).1.normalization.get bp) =
      GridBox.ontoGrid (placed.origin - ((LocalBoxes.bounds s).get bp).origin)
        ((assemble sections (sectionBounds sections).1 schedule).1.normalization.get bp)
        ((LocalBoxes.bounds s).get bp) := by
    rw [GridBox.ontoGrid_apply, ← GridBox.eq_translate (carry_of_placed hs hplaced).1]
  have hboxes : {b | b ∈ (s.get bp).values}.Nonempty := List.exists_mem_of_ne_nil _ hbox
  rw [areasOf_eq_image hs hplaced, hhull]
  refine GridArea.isLUB_ofBox (hboxes.image _) ?_
  rw [OrderIso.isLUB_image']
  exact LocalBoxes.isLUB_bounds hbox

end

/-- **Sections move as rigid bodies.**  A box of a section is published where it lies in the
section, less the corner of the section's bounding box, plus the corner that this bounding box has
once the operations of the layout have been carried out on all bounding boxes from the first line
on, plus the shift of the breakpoint, which is one for all boxes of all sections.  So the smallest
area around a section that is not empty is its arranged bounding box, shifted; and an anchor of the
section, as an operation reads it off the arranged bounding boxes, is the anchor of that area before
the shift. -/
theorem sections_rigid (sections : IdMap (LocalBoxes Rat)) (schedule : Option (Schedule Rat))
    (bp : Breakpoint) {sectionId : String} {s : LocalBoxes Rat}
    (hs : sections.get? sectionId = some s) :
    let plan := (assemble sections (sectionBounds sections).1 schedule).1
    let arranged := (Operation.runAll (Schedule.at? schedule bp) (baselineBounds sections bp)).1
    let corner := ((LocalBoxes.bounds s).get bp).origin
    let shift := plan.normalization.get bp
    ∃ placed, arranged.get? sectionId = some placed ∧
      (∀ boxId, plan.area? sectionId bp boxId = ((s.get bp).get? boxId).map fun b =>
        GridArea.ofBox { b with origin := b.origin - corner + placed.origin + shift }) ∧
      ((s.get bp).values ≠ [] →
        IsLUB (plan.areasOf sectionId bp) (GridArea.ofBox (placed.translate shift)) ∧
        ∀ hull, IsLUB (plan.areasOf sectionId bp) (GridArea.ofBox hull) → ∀ a : Anchor,
          ∃ point, Target.resolve (.anchor ⟨sectionId, a.name⟩) arranged = .ok point ∧
            hull.anchor a = point + shift) := by
  intro plan arranged corner shift
  obtain ⟨placed, hplaced, -⟩ := exists_placement hs schedule bp
  rw [boxes_placementAt] at hplaced
  refine ⟨placed, hplaced, area?_assemble_of_placed hs hplaced, fun hbox => ?_⟩
  have hleast := isLUB_areas hs hplaced hbox
  refine ⟨hleast, fun hull hhull a => ⟨placed.anchor a, ?_, ?_⟩⟩
  · exact Target.resolve_eq_ok_iff.mpr (.anchor a hplaced)
  · obtain rfl : hull = placed.translate shift :=
      GridArea.ofBoxEmbedding.injective (hhull.unique hleast)
    exact GridBox.anchor_translate placed shift a

/-- Two sections: one with boxes on either side of its origin, one with a single box. -/
def pairAndPost : IdMap (LocalBoxes Rat) := IdMap.ofList [
  ("pair", LocalBoxes.eitherSide),
  ("post", Bps.splat (IdMap.ofList [("p", GridBox.new ⟨2, 2⟩ ⟨1, 1⟩)]))]

/-- The pair goes in front of the post, and then the post away from it. -/
def pairThenPost : Option (Schedule Rat) :=
  some (.uniform [
    .moveTo (.valid ⟨"pair", "topRight"⟩) (.anchor ⟨"post", "bottomLeft"⟩) none,
    .moveBy (.valid ⟨"post"⟩) (.vector ⟨-10, 0⟩) none])

theorem pairAndPost_rigid :
    pairAndPost.get? "pair" = some LocalBoxes.eitherSide ∧
      (LocalBoxes.eitherSide.get .md).values ≠ [] ∧
      let plan := (assemble pairAndPost (sectionBounds pairAndPost).1 pairThenPost).1
      plan.area? "pair" .md "before" = some ⟨13 / 2, 17 / 2, 6, 7⟩ ∧
      IsLUB (plan.areasOf "pair" .md) ⟨13 / 2, 11, 1, 7⟩ ∧
      ∃ point, Target.resolve (.anchor ⟨"pair", "center"⟩)
          (Operation.runAll (Schedule.at? pairThenPost .md) (baselineBounds pairAndPost .md)).1 =
            .ok point ∧
        (⟨35 / 4, 4⟩ : Coordinate Rat) = point + ⟨10, 6⟩ := by
  have hs : pairAndPost.get? "pair" = some LocalBoxes.eitherSide := rfl
  have hbox : (LocalBoxes.eitherSide.get .md).values ≠ [] := by decide +kernel
  refine ⟨hs, hbox, ?_⟩
  intro plan
  obtain ⟨placed, hplaced, harea, hhull⟩ := sections_rigid pairAndPost pairThenPost .md hs
  have hshift : plan.normalization.get .md = ⟨10, 6⟩ := by decide +kernel
  have hplace : (Operation.runAll (Schedule.at? pairThenPost .md)
      (baselineBounds pairAndPost .md)).1.get? "pair" = some (.new ⟨-7 / 2, -5⟩ ⟨9 / 2, 6⟩) := by
    decide +kernel
  obtain rfl := Option.some.inj (hplaced.symm.trans hplace)
  obtain ⟨hleast, hanchor⟩ := hhull hbox
  have hpublished : GridArea.ofBox (GridBox.translate (.new ⟨-7 / 2, -5⟩ ⟨9 / 2, 6⟩)
      (plan.normalization.get .md)) = ⟨13 / 2, 11, 1, 7⟩ := by
    decide +kernel
  refine ⟨(harea "before").trans (by decide +kernel), hpublished ▸ hleast, ?_⟩
  obtain ⟨point, hpoint, heq⟩ := hanchor _ hleast .center
  refine ⟨point, hpoint, ?_⟩
  rw [← hshift]
  exact Eq.trans (by decide +kernel) heq

end GridLayout
