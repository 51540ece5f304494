import GridLayout.Proofs.Reported

/-!
# Stacked boxes do not overlap

A stack lays boxes one after another along an axis.  When sections end with stacking their boxes,
and the layout with stacking its sections, no two areas overlap, wherever the operations before have
put them and along whatever axes the stacks run.

Two boxes that do not overlap are `Apart`: along some axis one of them starts where the other has
ended, or after it.  The proof follows the boxes.

* `GridBox.pairwise_accumEntries_place`: along the axis of a stack every box ends before the next
  ones start.  The invariant is that no box of the rest starts before the cursor, which only moves
  on because no box has an extent below zero.
* `Operation.allApart_runAll`: so after a list of operations that ends in a stack all boxes are
  apart, be they the boxes of a section or the bounding boxes of all sections.
* `GridBox.Apart.mono`: boxes inside bounding boxes that are apart are apart.
* `Input.disjointAt_of_endsInStack`: no two published areas overlap.

Everything is in exact numbers.
-/

namespace GridLayout

/-! ## Boxes that are apart -/

namespace GridBox

/-- Two boxes are apart when along some axis one of them ends where the other starts or before. -/
def Apart (a b : GridBox Rat) : Prop :=
  ∃ axis, a.farCorner.along axis ≤ b.origin.along axis ∨
    b.farCorner.along axis ≤ a.origin.along axis

variable {a b a' b' : GridBox Rat}

theorem Apart.symm (h : a.Apart b) : b.Apart a := by
  obtain ⟨axis, h⟩ := h
  exact ⟨axis, h.symm⟩

/-- **Boxes inside boxes that are apart are apart.** -/
theorem Apart.mono (h : a.Apart b) (ha : a'.Within a) (hb : b'.Within b) : a'.Apart b' := by
  obtain ⟨axis, h | h⟩ := h
  · exact ⟨axis, Or.inl ((ha.far_le axis).trans (h.trans (hb.origin_le axis)))⟩
  · exact ⟨axis, Or.inr ((hb.far_le axis).trans (h.trans (ha.origin_le axis)))⟩

/-- Boxes that are moved together stay apart. -/
theorem Apart.translate (h : a.Apart b) (delta : Coordinate Rat) :
    (a.translate delta).Apart (b.translate delta) := by
  obtain ⟨axis, h⟩ := h
  refine ⟨axis, ?_⟩
  rw [along_farCorner, along_farCorner] at h ⊢
  simp only [origin_translate, diagonal_translate, Coordinate.along_add]
  rcases h with h | h
  · left
    linarith
  · right
    linarith

/-- **Boxes are apart exactly when their areas do not overlap.** -/
theorem intersects_ofBox_eq_false_iff :
    (GridArea.ofBox a).intersects (GridArea.ofBox b) = false ↔ a.Apart b := by
  simp only [GridArea.intersects, GridArea.ofBox, Scalar.lt_rat, Bool.and_eq_false_iff,
    decide_eq_false_iff_not, not_lt]
  constructor
  · rintro (((h | h) | h) | h)
    · exact ⟨.x, Or.inr h⟩
    · exact ⟨.x, Or.inl h⟩
    · exact ⟨.y, Or.inr h⟩
    · exact ⟨.y, Or.inl h⟩
  · rintro ⟨axis, h | h⟩
    · cases axis with
      | x => exact Or.inl (Or.inl (Or.inr h))
      | y => exact Or.inr h
    · cases axis with
      | x => exact Or.inl (Or.inl (Or.inl h))
      | y => exact Or.inl (Or.inr h)

/-- A box that is moved from one place to another is displaced by the difference. -/
theorem moved_eq_translate (b : GridBox Rat) (was is : Coordinate Rat) :
    { b with origin := b.origin - was + is } = b.translate (is - was) := by
  refine ext_along (fun axis => ?_) fun _ => rfl
  simp only [origin_translate, Coordinate.along_add, Coordinate.along_sub]
  rw [sub_add_eq_add_sub, add_sub_assoc]

theorem ofBox_translate (b : GridBox Rat) (delta : Coordinate Rat) :
    GridArea.ofBox (b.translate delta) = (GridArea.ofBox b).translate delta := by
  ext
  · rfl
  · exact add_right_comm _ _ _
  · rfl
  · exact add_right_comm _ _ _

end GridBox

/-- Any two boxes are apart. -/
def BoxMap.AllApart (boxes : BoxMap Rat) : Prop :=
  ∀ id id' b b', id ≠ id' → boxes.get? id = some b → boxes.get? id' = some b' → b.Apart b'

/-! ## Stacks -/

namespace GridBox

variable {axis : Axis} {gap : Rat}

/-- A box is placed at the cursor. -/
theorem along_origin_place (axis : Axis) (gap cursor : Rat) (b : GridBox Rat) :
    (b.place axis gap cursor).1.origin.along axis = cursor := by
  cases axis <;> simp [place, Coordinate.onAxis]

/-- **No box of a stack starts before the cursor**: the cursor only moves on. -/
theorem cursor_le_origin (hgap : 0 ≤ gap) :
    ∀ (l : List (String × GridBox Rat)) (cursor : Rat),
      ∀ e ∈ IdMap.accumEntries (GridBox.place axis gap) cursor l,
        cursor ≤ e.2.origin.along axis := by
  intro l
  induction l with
  | nil => exact fun _ _ he => absurd he List.not_mem_nil
  | cons first rest ih =>
    obtain ⟨id, b⟩ := first
    intro cursor e he
    rw [IdMap.accumEntries] at he
    rcases List.mem_cons.mp he with rfl | hrest
    · exact (along_origin_place axis gap cursor b).ge
    · have hnext : cursor + (b.diagonal.along axis + gap) ≤ e.2.origin.along axis :=
        ih _ e hrest
      have hb := b.diagonal_nonneg axis
      linarith

/-- **Along its axis every box of a stack ends before the next ones start.** -/
theorem pairwise_accumEntries_place (hgap : 0 ≤ gap) :
    ∀ (l : List (String × GridBox Rat)) (cursor : Rat),
      (IdMap.accumEntries (GridBox.place axis gap) cursor l).Pairwise fun e f =>
        e.2.farCorner.along axis ≤ f.2.origin.along axis := by
  intro l
  induction l with
  | nil => exact fun _ => List.Pairwise.nil
  | cons first rest ih =>
    obtain ⟨id, b⟩ := first
    intro cursor
    rw [IdMap.accumEntries, List.pairwise_cons]
    refine ⟨fun f hf => ?_, ih _⟩
    have hnext : cursor + (b.diagonal.along axis + gap) ≤ f.2.origin.along axis :=
      cursor_le_origin hgap rest _ f hf
    have hend : (b.place axis gap cursor).1.farCorner.along axis =
        cursor + b.diagonal.along axis := by
      rw [along_farCorner, along_origin_place, diagonal_place]
    rw [hend]
    linarith

end GridBox

/-- A stack with a gap that is not below zero leaves all boxes apart. -/
theorem Motion.allApart_stack (axis : Axis) {gap : Rat} (hgap : 0 ≤ gap) (boxes : BoxMap Rat) :
    BoxMap.AllApart ((Motion.stack axis gap).apply boxes) := by
  intro id id' b b' hne hb hb'
  have hpair : ((Motion.stack axis gap).apply boxes).entries.Pairwise fun e f =>
      e.2.farCorner.along axis ≤ f.2.origin.along axis :=
    GridBox.pairwise_accumEntries_place hgap boxes.entries Scalar.zero
  have happart : ((Motion.stack axis gap).apply boxes).entries.Pairwise fun e f =>
      e.2.Apart f.2 := hpair.imp fun h => ⟨axis, Or.inl h⟩
  have hsymm : Std.Symm fun e f : String × GridBox Rat => e.2.Apart f.2 :=
    ⟨fun _ _ h => h.symm⟩
  have hentries : (id, b) ≠ (id', b') := fun heq => hne (congrArg Prod.fst heq)
  have hboth := happart.forall (IdMap.get?_eq_some_iff.mp hb) (IdMap.get?_eq_some_iff.mp hb')
    hentries
  exact hboth

/-! ## Lists of operations that end in a stack -/

namespace Operation

/-- An operation is a stack whose gap is absent or a number that is not below zero. -/
inductive IsStack : Operation Rat → Prop
  | plain (axis : Axis) : IsStack (.stack axis none)
  | spaced (axis : Axis) {gap : Rat} (h : 0 ≤ gap) : IsStack (.stack axis (some (.valid gap)))

/-- The last operation of a list is a stack whose gap is absent or not below zero. -/
def EndsInStack (ops : List (Operation Rat)) : Prop :=
  ∃ op, ops.getLast? = some op ∧ op.IsStack

/-- Such a stack succeeds whatever the boxes are. -/
theorem IsStack.run_eq_ok {op : Operation Rat} (h : op.IsStack) (boxes : BoxMap Rat) :
    ∃ axis gap, 0 ≤ gap ∧ op.run boxes = .ok ((Motion.stack axis gap).apply boxes) := by
  cases h with
  | plain axis => exact ⟨axis, 0, le_rfl, rfl⟩
  | @spaced axis gap hgap => exact ⟨axis, gap, hgap, rfl⟩

/-- **After operations that end in a stack all boxes are apart**, whatever the operations before it
have done, and whether or not they have failed. -/
theorem allApart_runAll {ops : List (Operation Rat)} (h : EndsInStack ops) (boxes : BoxMap Rat) :
    BoxMap.AllApart (runAll ops boxes).1 := by
  obtain ⟨op, hlast, hstack⟩ := h
  obtain ⟨before, rfl⟩ := List.getLast?_eq_some_iff.mp hlast
  obtain ⟨axis, gap, hgap, hrun⟩ := hstack.run_eq_ok (runAll before boxes).1
  rw [runAll_append, runAll_singleton_of_ok hrun]
  exact Motion.allApart_stack axis hgap _

end Operation

/-! ## What a solve publishes -/

/-- The boxes of a section are carried together, so they stay apart. -/
theorem Positioned.apart_carry {p : Positioned Rat} {sectionId : String}
    {b b' e placed : GridBox Rat} (h : b.Apart b')
    (hcarry : ∀ b : GridBox Rat, p.carry sectionId b =
      { b with origin := b.origin - e.origin + placed.origin }) :
    (p.carry sectionId b).Apart (p.carry sectionId b') := by
  rw [hcarry, hcarry, GridBox.moved_eq_translate, GridBox.moved_eq_translate]
  exact h.translate _

namespace Input

variable {i : Input Rat} {bp : Breakpoint}

/-- The boxes of a section that ends with a stack are apart. -/
theorem allApart_arrange {s : SectionSpec Rat}
    (h : Operation.EndsInStack (Schedule.at? s.schedule bp)) (sectionId : String) :
    BoxMap.AllApart ((s.arrange sectionId i.catalog i.options).1.get bp) := by
  rw [SectionSpec.get_arrange]
  exact Operation.allApart_runAll h _

/-- The bounding boxes of a layout that ends with a stack are apart. -/
theorem allApart_placementAt
    (h : Operation.EndsInStack (Schedule.at? i.layout.schedule bp)) :
    BoxMap.AllApart (placementAt i.arranged i.layout.schedule bp).boxes :=
  Operation.allApart_runAll h _

/-- **Boxes that are apart in their sections are published apart**, when the bounding boxes are
arranged apart: two boxes of one section are carried together, and two boxes of different sections
lie inside the bounding boxes of these. -/
theorem disjointAt_of_allApart
    (hsections : ∀ sectionId s, i.layout.sections.get? sectionId = some s →
      BoxMap.AllApart ((s.arrange sectionId i.catalog i.options).1.get bp))
    (hbounds : BoxMap.AllApart (placementAt i.arranged i.layout.schedule bp).boxes) :
    i.solution.plan.DisjointAt bp := by
  rintro ⟨sectionId, boxId, area⟩ hp ⟨sectionId', boxId', area'⟩ hq hne
  obtain ⟨s, b, hs, hb, harea⟩ := mem_placedAt_solution.mp hp
  obtain ⟨s', b', hs', hb', harea'⟩ := mem_placedAt_solution.mp hq
  dsimp only at hs hb harea hs' hb' harea' ⊢
  subst harea harea'
  rw [← GridBox.ofBox_translate, ← GridBox.ofBox_translate, GridBox.intersects_ofBox_eq_false_iff]
  refine GridBox.Apart.translate ?_ _
  obtain ⟨placed, hplaced, hdiag, hcarry⟩ := exists_placement (get?_arranged_of_some hs)
    i.layout.schedule bp
  by_cases hid : sectionId = sectionId'
  · subst hid
    obtain rfl : s = s' := Option.some.inj (hs.symm.trans hs')
    have hbox : boxId ≠ boxId' := by
      rintro rfl
      obtain rfl : b = b' := Option.some.inj (hb.symm.trans hb')
      exact hne rfl
    have hapart : b.Apart b' := hsections sectionId s hs boxId boxId' b b' hbox hb hb'
    exact Positioned.apart_carry hapart hcarry
  · obtain ⟨placed', hplaced', hdiag', hcarry'⟩ := exists_placement
      (get?_arranged_of_some hs') i.layout.schedule bp
    have hwithin := LocalBoxes.within_bounds _ bp (IdMap.mem_values.mpr ⟨boxId, hb⟩)
    have hwithin' := LocalBoxes.within_bounds _ bp (IdMap.mem_values.mpr ⟨boxId', hb'⟩)
    have hapart : placed.Apart placed' :=
      hbounds sectionId sectionId' placed placed' hid hplaced hplaced'
    exact hapart.mono (Positioned.within_carry hwithin hdiag (hcarry b))
      (Positioned.within_carry hwithin' hdiag' (hcarry' b'))

/-- **Stacked boxes in stacked sections do not overlap.**  When at a breakpoint the operations of
every section end with a stack, and those of the layout do too, no two published areas overlap at
that breakpoint, and the audit reports nothing about it, whatever it is asked for. -/
theorem disjointAt_of_endsInStack (i : Input Rat) (bp : Breakpoint)
    (hsections : ∀ sectionId s, i.layout.sections.get? sectionId = some s →
      Operation.EndsInStack (Schedule.at? s.schedule bp))
    (hlayout : Operation.EndsInStack (Schedule.at? i.layout.schedule bp)) :
    i.solution.plan.DisjointAt bp ∧
      ∀ (breakpoints : List Breakpoint) (policy : OverlapPolicy),
        Diagnostic.atBreakpoint
          ((overlapIssues i.solution.plan breakpoints policy).map Issue.diagnostic) bp = [] := by
  have hdisjoint : i.solution.plan.DisjointAt bp := disjointAt_of_allApart
    (fun sectionId s hs => allApart_arrange (hsections sectionId s hs) sectionId)
    (allApart_placementAt hlayout)
  exact ⟨hdisjoint, atBreakpoint_overlapIssues_eq_nil hdisjoint⟩

/-- Three sections in a column, one of them empty.  Operations that go before the stacks push boxes
onto each other, or fail. -/
def crates : Input Rat where
  layout := {
    sections := IdMap.ofList [
      ("row", ⟨IdMap.ofList [("a", ⟨some (.uniform "tall")⟩), ("b", ⟨some (.uniform "wide")⟩)],
        some (.uniform [.moveBy (.valid ⟨"b"⟩) (.uniform (-7)) none, .stack .x none]), none⟩),
      ("none", ⟨IdMap.empty, some (.uniform [.stacked .x 4]), none⟩),
      ("column", ⟨IdMap.ofList [("c", ⟨some (.uniform "unit")⟩), ("d", ⟨some (.uniform "tall")⟩)],
        some (.uniform [.moveBy (.valid ⟨"e"⟩) (.uniform 1) none, .stacked .y (1 / 2)]), none⟩)]
    schedule := some (.uniform [.moveBy (.valid ⟨"row"⟩) (.uniform (-20)) none, .stacked .y 0]) }
  catalog := threeShapes
  options := ⟨.error, Breakpoint.all, (1, 1)⟩

theorem crates_disjointAt :
    (∀ sectionId s, crates.layout.sections.get? sectionId = some s →
        Operation.EndsInStack (Schedule.at? s.schedule .lg)) ∧
      Operation.EndsInStack (Schedule.at? crates.layout.schedule .lg) ∧
      (crates.solution.plan.placedAt .lg).length = 4 ∧
      crates.solution.plan.DisjointAt .lg ∧
      Diagnostic.atBreakpoint
        ((overlapIssues crates.solution.plan Breakpoint.all .error).map Issue.diagnostic) .lg =
          [] := by
  have hsections : ∀ sectionId s, crates.layout.sections.get? sectionId = some s →
      Operation.EndsInStack (Schedule.at? s.schedule .lg) := by
    intro sectionId s hs
    have hentry := IdMap.mem_entries_ofList (IdMap.get?_eq_some_iff.mp hs)
    simp only [List.mem_cons, Prod.mk.injEq, List.not_mem_nil, or_false] at hentry
    rcases hentry with ⟨-, rfl⟩ | ⟨-, rfl⟩ | ⟨-, rfl⟩
    · exact ⟨_, rfl, .plain .x⟩
    · exact ⟨_, rfl, .spaced .x (by decide)⟩
    · exact ⟨_, rfl, .spaced .y (by decide +kernel)⟩
  have hlayout : Operation.EndsInStack (Schedule.at? crates.layout.schedule .lg) :=
    ⟨_, rfl, .spaced .y le_rfl⟩
  obtain ⟨hdisjoint, haudit⟩ := disjointAt_of_endsInStack crates .lg hsections hlayout
  exact ⟨hsections, hlayout, by decide +kernel, hdisjoint, haudit Breakpoint.all .error⟩

end Input

end GridLayout
