import GridLayout.Proofs.Enumeration
import Mathlib.Order.Bounds.Basic

/-!
# A bounding box is a least upper bound

Boxes are ordered by inclusion: one is below another when it lies inside it.  The bounding box of a
section is then the least upper bound of its boxes, and this is all there is to know about it, since
a least upper bound is unique.  In particular the order in which boxes are listed has no bearing on
it, although it is computed by unions from the first box on.

The upper bounds are boxes too, so no extent of theirs is below zero.  A rectangle that contains a
box cannot have such an extent in any case.

* `isLUB_enclosing?`, `LocalBoxes.isLUB_bounds`: bounding boxes as least upper bounds.
* `LocalBoxes.bounds_of_perm`: the order of the boxes has no bearing on it.
* `LocalBoxes.atBreakpoint_emptyIssues`: what is reported about a breakpoint without boxes.
* `LocalBoxes.bounds_least`: the bounding boxes of a section, with the reports.

Everything about places is in exact numbers.
-/

namespace GridLayout

/-! ## Inclusion -/

/-- Boxes are ordered by inclusion. -/
instance : PartialOrder (GridBox Rat) where
  le := GridBox.Within
  le_refl := GridBox.Within.refl
  le_trans _ _ _ := GridBox.Within.trans
  le_antisymm _ _ := GridBox.Within.antisymm

/-- **The smallest box around some boxes is their least upper bound.** -/
theorem isLUB_enclosing? {boxes : BoxMap Rat} {e : GridBox Rat} (he : enclosing? boxes = some e) :
    IsLUB {b | b ∈ boxes.values} e := by
  constructor
  · intro b hb
    obtain ⟨e', he', hwithin⟩ := exists_enclosing? hb
    obtain rfl : e' = e := Option.some.inj (he'.symm.trans he)
    exact hwithin
  · intro outer houter
    exact enclosing?_within he fun b hb => houter hb

/-! ## Bounding boxes of sections -/

theorem IdMap.isEmpty_iff_values {β : Type} {m : IdMap β} : m.isEmpty = true ↔ m.values = [] := by
  rw [isEmpty, List.isEmpty_iff, values, List.map_eq_nil_iff]

namespace LocalBoxes

/-- **The bounding box of a section** at a breakpoint where it has boxes. -/
theorem isLUB_bounds {boxes : LocalBoxes Rat} {bp : Breakpoint}
    (hbox : (boxes.get bp).values ≠ []) :
    IsLUB {b | b ∈ (boxes.get bp).values} ((LocalBoxes.bounds boxes).get bp) := by
  obtain ⟨b, hb⟩ := List.exists_mem_of_ne_nil _ hbox
  obtain ⟨e, he, -⟩ := exists_enclosing? hb
  rw [bounds, Bps.get_map, he]
  exact isLUB_enclosing? he

/-- The bounding box of a section at a breakpoint where it has none. -/
theorem bounds_of_values_eq_nil {boxes : LocalBoxes Rat} {bp : Breakpoint}
    (hnil : (boxes.get bp).values = []) :
    (LocalBoxes.bounds boxes).get bp = GridBox.new ⟨0, 0⟩ ⟨0, 0⟩ := by
  rw [bounds, Bps.get_map, enclosing?, hnil]
  decide +kernel

/-- Bounding boxes do not depend on the order in which boxes are listed. -/
theorem bounds_of_perm {boxes boxes' : LocalBoxes Rat} {bp : Breakpoint}
    (hperm : (boxes'.get bp).entries.Perm (boxes.get bp).entries) :
    (LocalBoxes.bounds boxes').get bp = (LocalBoxes.bounds boxes).get bp := by
  rw [bounds, bounds, Bps.get_map, Bps.get_map,
    enclosing?_eq (IdMap.SameEntries.of_perm hperm.symm)]

/-! ## Reports -/

/-- **What is reported about a breakpoint**: once that there are no boxes, where there are none. -/
theorem atBreakpoint_emptyIssues {α : Type} [Scalar α] (boxes : LocalBoxes α) (sectionId : String)
    (bp : Breakpoint) :
    Diagnostic.atBreakpoint ((LocalBoxes.emptyIssues boxes sectionId).map Issue.diagnostic) bp =
      if (boxes.get bp).values = [] then [(Issue.sectionEmpty sectionId bp).diagnostic]
      else [] := by
  have hplacement : (LocalBoxes.emptyIssues boxes sectionId).filter
      (fun issue => issue.breakpoint? == some bp) =
      (LocalBoxes.emptyIssues boxes sectionId).filter (Issue.isPlacementAt bp) := by
    refine List.filter_congr fun issue hissue => ?_
    obtain ⟨bp', -, rfl⟩ := mem_emptyIssues.mp hissue
    exact (Bool.and_true _).symm
  rw [Issue.atBreakpoint_map_diagnostic, hplacement, filter_emptyIssues]
  simp only [IdMap.isEmpty_iff_values]
  split <;> rfl

/-! ## Bounding boxes with their reports -/

/-- **The bounding box of a section is the smallest rectangle around its boxes.**  At a breakpoint
where the section has boxes it is their least upper bound in the order of inclusion: it contains
each of them, and every rectangle that contains all of them contains it; and it is the same for
every order in which the boxes are listed.  At a breakpoint without boxes it is the point `(0, 0)`,
and one warning about that breakpoint says so.  There are no other reports. -/
theorem bounds_least (boxes : LocalBoxes Rat) (sectionId : String) :
    let reports := (LocalBoxes.emptyIssues boxes sectionId).map Issue.diagnostic
    (∀ bp, (boxes.get bp).values ≠ [] →
      IsLUB {b | b ∈ (boxes.get bp).values} ((LocalBoxes.bounds boxes).get bp) ∧
      ∀ boxes' : LocalBoxes Rat, (boxes'.get bp).entries.Perm (boxes.get bp).entries →
        (LocalBoxes.bounds boxes').get bp = (LocalBoxes.bounds boxes).get bp) ∧
    (∀ bp, (boxes.get bp).values = [] →
      (LocalBoxes.bounds boxes).get bp = GridBox.new ⟨0, 0⟩ ⟨0, 0⟩ ∧
      ∃ report, Diagnostic.atBreakpoint reports bp = [report] ∧ report.severity = .warning ∧
        report.origin = .sectionBounds ∧ report.code = .sectionEmpty) ∧
    ∀ report ∈ reports, ∃ bp, report.breakpoint? = some bp ∧ (boxes.get bp).values = [] := by
  intro reports
  refine ⟨fun bp hbox => ?_, fun bp hnil => ?_, fun report hreport => ?_⟩
  · exact ⟨isLUB_bounds hbox, fun _ hperm => bounds_of_perm hperm⟩
  · refine ⟨bounds_of_values_eq_nil hnil, (Issue.sectionEmpty sectionId bp).diagnostic, ?_,
      rfl, rfl, rfl⟩
    rw [atBreakpoint_emptyIssues, if_pos hnil]
  · obtain ⟨issue, hissue, rfl⟩ := List.mem_map.mp hreport
    obtain ⟨bp, hempty, rfl⟩ := mem_emptyIssues.mp hissue
    exact ⟨bp, Issue.breakpoint?_diagnostic _, IdMap.isEmpty_iff_values.mp hempty⟩

/-- Two boxes on either side of the origin, except at the smallest breakpoint. -/
def eitherSide : LocalBoxes Rat :=
  (Bps.splat (IdMap.ofList [("before", GridBox.new ⟨-3, 1⟩ ⟨2, 1⟩),
    ("after", GridBox.new ⟨1 / 2, -4⟩ ⟨-1, 1⟩)])).set .xs IdMap.empty

theorem eitherSide_bounds :
    IsLUB {b | b ∈ (eitherSide.get .md).values} (GridBox.new ⟨-3, -4⟩ ⟨9 / 2, 6⟩) ∧
      (LocalBoxes.bounds eitherSide).get .xs = GridBox.new ⟨0, 0⟩ ⟨0, 0⟩ ∧
      ∃ report, Diagnostic.atBreakpoint
          ((LocalBoxes.emptyIssues eitherSide "s").map Issue.diagnostic) .xs = [report] ∧
        report.severity = .warning ∧ report.origin = .sectionBounds ∧
        report.code = .sectionEmpty := by
  obtain ⟨hboxes, hnone, -⟩ := bounds_least eitherSide "s"
  have hbounds : (LocalBoxes.bounds eitherSide).get .md = GridBox.new ⟨-3, -4⟩ ⟨9 / 2, 6⟩ := by
    decide +kernel
  have hleast := (hboxes .md (by decide +kernel)).1
  rw [hbounds] at hleast
  exact ⟨hleast, hnone .xs rfl⟩

end LocalBoxes

end GridLayout
