import GridLayout.Proofs.Landing

/-!
# Aligning all boxes is aligning every box

An alignment of all boxes finds its target once, before anything moves, and then moves every box
onto one line.  The target may be an anchor of a box that moves itself, so aligning the boxes one
after another on that target would follow it.  On the point that the target stood for at first it
comes to the same, in whatever order the boxes are taken.

* `BoxMap.levelOnly`: the boxes of some ids are moved onto a line.  Single alignments build it up
  (`Operation.run_align_point`, `BoxMap.levelOnly_cons`): this is what holds halfway, when some
  boxes are aligned and the others are where they were.
* `Operation.runAll_map_align`: after one alignment for each of some ids, the boxes of these are on
  the line.
* `Operation.run_alignAll_aligns`: an alignment of all boxes that succeeds is that, for all ids.

Everything is in exact numbers.
-/

namespace GridLayout

/-! ## Some boxes on a line -/

/-- Moves the boxes of some ids along an axis until their anchor is on the line. -/
def BoxMap.levelOnly (ids : List String) (axis : Axis) (anchor : Anchor) (line : Rat)
    (boxes : BoxMap Rat) : BoxMap Rat :=
  boxes.mapEntries fun id b => if id ∈ ids then b.level axis anchor line else b

section

variable {axis : Axis} {anchor : Anchor} {line : Rat}

theorem BoxMap.levelOnly_nil (boxes : BoxMap Rat) :
    BoxMap.levelOnly [] axis anchor line boxes = boxes :=
  IdMap.map_eq_self fun _ _ => rfl

/-- One more box goes onto the line: one that is not among those that go there later. -/
theorem BoxMap.levelOnly_cons {id : String} {ids : List String} (h : id ∉ ids)
    (boxes : BoxMap Rat) :
    BoxMap.levelOnly ids axis anchor line (BoxMap.levelOnly [id] axis anchor line boxes) =
      BoxMap.levelOnly (id :: ids) axis anchor line boxes := by
  rw [levelOnly, levelOnly, levelOnly, IdMap.mapEntries_mapEntries]
  refine IdMap.mapEntries_congr fun e _ => ?_
  by_cases hid : e.1 = id
  · have hlater : e.1 ∉ ids := by rwa [hid]
    rw [if_neg hlater, if_pos (List.mem_singleton.mpr hid), if_pos (List.mem_cons.mpr (.inl hid))]
  · rw [if_neg (mt List.mem_singleton.mp hid)]
    simp only [List.mem_cons, hid, false_or]

theorem BoxMap.levelOnly_keys {ids : List String} {boxes : BoxMap Rat}
    (h : ∀ id ∈ boxes.keys, id ∈ ids) :
    BoxMap.levelOnly ids axis anchor line boxes = (Motion.level axis anchor line).apply boxes := by
  rw [levelOnly, Motion.apply, IdMap.map]
  refine IdMap.mapEntries_congr fun e he => ?_
  rw [if_pos (h e.1 (IdMap.mem_keys_of_get? (IdMap.get?_of_mem he)))]

theorem BoxMap.keys_levelOnly (ids : List String) (boxes : BoxMap Rat) :
    (BoxMap.levelOnly ids axis anchor line boxes).keys = boxes.keys :=
  IdMap.keys_mapEntries _ _

/-- **A box that is moved onto a line** has its anchor there, and stays where it was along the other
axis. -/
theorem GridBox.level_spec (b : GridBox Rat) (axis : Axis) (anchor : Anchor) (line : Rat) :
    ((b.level axis anchor line).anchor anchor).along axis = line ∧
      (b.level axis anchor line).origin.along axis.other = b.origin.along axis.other :=
  (@GridBox.eq_translate_onAxis_iff b (b.level axis anchor line) rfl axis anchor line).mp rfl

end

/-! ## Alignments in a row -/

namespace Operation

variable {axis : Axis} {a : Anchor} {p : Coordinate Rat} {gap : Option (Param Rat Rat)} {g : Rat}

/-- Aligning one box on a point moves that box onto the line of the point. -/
theorem run_align_point (hgap : gap.getD (.valid 0) = .valid g) {id : String} {boxes : BoxMap Rat}
    (hid : id ∈ boxes.keys) :
    (Operation.align axis (.valid ⟨id, a.name⟩) (.point p) gap).run boxes =
      .ok (BoxMap.levelOnly [id] axis a (p.along axis + g) boxes) := by
  obtain ⟨b, hbox⟩ := IdMap.mem_keys.mp hid
  refine run_eq_ok_iff.mpr ⟨_, check_align_eq_ok_iff.mpr
    ⟨id, a, b, p, g, rfl, hbox, .point p, hgap, rfl⟩, ?_⟩
  rw [Motion.apply, IdMap.modify_eq_mapEntries, BoxMap.levelOnly]
  refine IdMap.mapEntries_congr fun e he => ?_
  by_cases h : e.1 = id
  · have hentry : boxes.get? id = some e.2 := h ▸ IdMap.get?_of_mem he
    obtain rfl : b = e.2 := Option.some.inj (hbox.symm.trans hentry)
    rw [if_pos h, if_pos (List.mem_singleton.mpr h)]
    rfl
  · rw [if_neg h, if_neg (mt List.mem_singleton.mp h)]

/-- **Alignments of single boxes on a point, one after another**, move the boxes of their ids onto
the line of the point. -/
theorem runAll_map_align (hgap : gap.getD (.valid 0) = .valid g) {ids : List String} :
    ∀ {boxes : BoxMap Rat}, ids.Nodup → (∀ id ∈ ids, id ∈ boxes.keys) →
      runAll (ids.map fun id => .align axis (.valid ⟨id, a.name⟩) (.point p) gap) boxes =
        (BoxMap.levelOnly ids axis a (p.along axis + g) boxes, []) := by
  induction ids with
  | nil =>
    intro boxes _ _
    rw [BoxMap.levelOnly_nil]
    rfl
  | cons id ids ih =>
    intro boxes hnodup hids
    rw [List.nodup_cons] at hnodup
    rw [List.forall_mem_cons] at hids
    have hlater : ∀ k ∈ ids,
        k ∈ (BoxMap.levelOnly [id] axis a (p.along axis + g) boxes).keys := by
      intro k hk
      rw [BoxMap.keys_levelOnly]
      exact hids.2 k hk
    rw [List.map_cons, runAll_cons_of_ok (run_align_point hgap hids.1), ih hnodup.2 hlater,
      BoxMap.levelOnly_cons hnodup.1]

/-! ## All boxes at once -/

/-- From some boxes to others, every box has been aligned on a point along an axis. -/
structure Aligns (axis : Axis) (a : Anchor) (p : Coordinate Rat) (gap : Option (Param Rat Rat))
    (g : Rat) (boxes moved : BoxMap Rat) : Prop where
  /-- It comes to one alignment for each box, in any order. -/
  each : ∀ ids : List String, ids.Perm boxes.keys →
    runAll (ids.map fun id => .align axis (.valid ⟨id, a.name⟩) (.point p) gap) boxes = (moved, [])
  extents : BoxMap.extents moved = BoxMap.extents boxes
  /-- Every box has its anchor on the point plus the gap along the axis, and stays where it was
  along the other. -/
  line : ∀ id b, boxes.get? id = some b → ∃ b', moved.get? id = some b' ∧
    (b'.anchor a).along axis = p.along axis + g ∧
    b'.origin.along axis.other = b.origin.along axis.other

/-- **Aligning all boxes is aligning every box.**  When an alignment of all boxes succeeds, it leads
to the boxes that alignments of the single boxes lead to, in any order, on the point that the target
stood for before anything moved; all of these succeed. -/
theorem run_alignAll_aligns {target : Target Rat} {anchor : Param Rat String}
    {boxes moved : BoxMap Rat}
    (hrun : (Operation.alignAll axis target anchor gap).run boxes = .ok moved) :
    ∃ a p g, anchor = .valid (Anchor.name a) ∧ target.StandsFor boxes p ∧
      gap.getD (.valid 0) = .valid g ∧ Aligns axis a p gap g boxes moved := by
  obtain ⟨m, hcheck, rfl⟩ := run_eq_ok_iff.mp hrun
  obtain ⟨a, p, g, hanchor, htarget, hgap, rfl⟩ := check_alignAll_eq_ok_iff.mp hcheck
  refine ⟨a, p, g, hanchor, htarget, hgap, ?_, Motion.extents_apply _ _, fun id b hbox => ?_⟩
  · intro ids hperm
    have hids : ∀ id ∈ ids, id ∈ boxes.keys := fun id => hperm.mem_iff.mp
    rw [runAll_map_align hgap (hperm.nodup_iff.mpr boxes.nodup_keys) hids,
      BoxMap.levelOnly_keys fun id => hperm.mem_iff.mpr]
  · refine ⟨b.level axis a (p.along axis + g), ?_, GridBox.level_spec b axis a _⟩
    rw [Motion.apply, IdMap.get?_map, hbox, Option.map_some]

/-- The far corners of both boxes go half a unit beyond the centre of the wide one, which moves with
them; the tall box first or the wide one first. -/
theorem wideAndTall_aligns :
    (Operation.alignAll .x (.anchor ⟨"wide", "center"⟩) (.valid "topRight")
        (some (.valid (1 / 2)))).run (wideAndTall ⟨1, 1⟩ ⟨-7, 0⟩) =
        .ok (wideAndTall ⟨-1 / 2, 1⟩ ⟨5 / 2, 0⟩) ∧
      runAll (["tall", "wide"].map fun id =>
          .align .x (.valid ⟨id, "topRight"⟩) (.point ⟨3, 3 / 2⟩) (some (.valid (1 / 2))))
        (wideAndTall ⟨1, 1⟩ ⟨-7, 0⟩) = (wideAndTall ⟨-1 / 2, 1⟩ ⟨5 / 2, 0⟩, []) := by
  have hrun : (Operation.alignAll .x (.anchor ⟨"wide", "center"⟩) (.valid "topRight")
      (some (.valid (1 / 2)))).run (wideAndTall ⟨1, 1⟩ ⟨-7, 0⟩) =
      .ok (wideAndTall ⟨-1 / 2, 1⟩ ⟨5 / 2, 0⟩) := eq_ok_of_toOption (by decide +kernel)
  obtain ⟨a, p, g, hanchor, htarget, -, haligns⟩ := run_alignAll_aligns hrun
  obtain rfl : a = .topRight := Anchor.name_injective (Param.valid.inj hanchor).symm
  have hcentre : (Target.anchor ⟨"wide", "center"⟩ : Target Rat).StandsFor
      (wideAndTall ⟨1, 1⟩ ⟨-7, 0⟩) ⟨3, 3 / 2⟩ :=
    Target.resolve_eq_ok_iff.mp (eq_ok_of_toOption (by decide +kernel))
  obtain rfl : p = ⟨3, 3 / 2⟩ := htarget.unique hcentre
  exact ⟨hrun, haligns.each ["tall", "wide"] (List.Perm.swap _ _ _)⟩

end Operation

end GridLayout
