import GridLayout.Proofs.Enclosure
import GridLayout.Proofs.Slices

/-!
# Every box has a positive extent

A size is taken from the catalog only when it is usable, and the fallback is usable by construction,
so whatever a dimension says, the size it leads to is usable.  Sizes become extents of boxes at the
origin, and operations keep extents.

* `Dimension.usable_sizes`: every size of every dimension is usable, over any numbers in which one
  cell is.
* `SectionSpec.arrange_positive`: over the rationals, a section arranged by any operations holds
  only boxes with a positive extent on both axes.
-/

namespace GridLayout

/-! ## Sizes -/

section

variable {α : Type} [Scalar α]

/-- The fallback is usable when one cell is. -/
theorem Options.usable_fallback (hone : isUsableSize (Scalar.one : α) Scalar.one = true)
    (o : Options α) : isUsableSize o.fallback.x o.fallback.y = true := by
  rw [Options.fallback]
  cases h : o.hasUsableDefault with
  | true => exact h
  | false => exact hone

/-- A size that the catalog yields is usable. -/
theorem Catalog.usable_find {catalog : Catalog α} {shape : String} {box : BoxPlace}
    {bp : Option Breakpoint} {fallback size : Coordinate α}
    (h : catalog.find shape box bp fallback = .ok size) : isUsableSize size.x size.y = true := by
  rw [Catalog.find] at h
  split at h
  · split at h
    · next husable =>
      rw [← Except.ok.inj h]
      exact husable
    · exact nomatch h
  · exact nomatch h

/-- A size that a dimension yields is usable: it comes from the catalog. -/
theorem Dimension.usable_find {d : Dimension α} {catalog : Catalog α} {box : BoxPlace}
    {bp : Breakpoint} {fallback size : Coordinate α}
    (h : d.find catalog box bp fallback = .ok size) : isUsableSize size.x size.y = true := by
  unfold Dimension.find at h
  split at h
  · exact Catalog.usable_find h
  · split at h
    · exact Catalog.usable_find h
    · exact nomatch h
  · exact nomatch h

/-- **Every size is usable**, whatever the dimension, the catalog and the options say. -/
theorem Dimension.usable_sizes (hone : isUsableSize (Scalar.one : α) Scalar.one = true)
    (d : Dimension α) (catalog : Catalog α) (options : Options α) (box : BoxPlace)
    (bp : Breakpoint) :
    isUsableSize ((d.sizes catalog options box).get bp).x
      ((d.sizes catalog options box).get bp).y = true := by
  rw [Dimension.sizes, Bps.get_ofFn]
  cases h : d.find catalog box bp options.fallback with
  | ok size => exact Dimension.usable_find h
  | error issue => exact options.usable_fallback hone

/-! ## Sections -/

namespace SectionSpec

/-- A box of a section before any operation is a member at the origin. -/
theorem mem_startingBoxes {members : List (String × Bps (Coordinate α))} {bp : Breakpoint}
    {e : String × GridBox α} (h : e ∈ (startingBoxes members bp).entries) :
    ∃ m ∈ members, e = (m.1, GridBox.atOrigin (m.2.get bp)) := by
  obtain ⟨m, hm, heq⟩ := List.mem_map.mp (IdMap.mem_entries_ofList h)
  exact ⟨m, hm, heq.symm⟩

/-- A member of a section has a dimension, and its sizes are those of the dimension. -/
theorem mem_sizedMembers {s : SectionSpec α} {sectionId : String} {catalog : Catalog α}
    {options : Options α} {m : String × Bps (Coordinate α)}
    (h : m ∈ s.sizedMembers sectionId catalog options) :
    ∃ d, s.dimension? m.1 = some d ∧ m.2 = d.sizes catalog options ⟨sectionId, m.1⟩ := by
  obtain ⟨boxId, -, hbox⟩ := List.mem_filterMap.mp h
  obtain ⟨d, hd, rfl⟩ := Option.map_eq_some_iff.mp hbox
  exact ⟨d, hd, rfl⟩

/-- A box of an arranged section has the size of a member. -/
theorem exists_sizedMember_of_mem_arrange {s : SectionSpec α} {sectionId : String}
    {catalog : Catalog α} {options : Options α} {bp : Breakpoint} {b : GridBox α}
    (h : b ∈ ((s.arrange sectionId catalog options).1.get bp).values) :
    ∃ m ∈ s.sizedMembers sectionId catalog options, b.diagonal = (m.2.get bp).abs := by
  have hext : b.diagonal ∈ (BoxMap.extents ((s.arrange sectionId catalog options).1.get bp)).values
      := by
    rw [BoxMap.extents, IdMap.values_map]
    exact List.mem_map_of_mem h
  rw [get_arrange, outcomeAt, Operation.extents_runAll, BoxMap.extents, IdMap.values_map] at hext
  obtain ⟨start, hstart, hdiag⟩ := List.mem_map.mp hext
  obtain ⟨e, he, rfl⟩ := List.mem_map.mp hstart
  obtain ⟨m, hm, rfl⟩ := mem_startingBoxes he
  exact ⟨m, hm, hdiag.symm⟩

end SectionSpec

end

/-! ## Exact numbers -/

/-- A usable size is above zero on both axes. -/
theorem Coordinate.along_pos_of_usable {c : Coordinate Rat} (h : isUsableSize c.x c.y = true)
    (axis : Axis) : 0 < c.along axis := by
  rw [isUsableSize, Bool.and_eq_true, Bool.and_eq_true] at h
  cases axis with
  | x => exact of_decide_eq_true h.1.2
  | y => exact of_decide_eq_true h.2

/-- **Every box of an arranged section has a positive extent** on both axes. -/
theorem SectionSpec.arrange_positive {s : SectionSpec Rat} {sectionId : String}
    {catalog : Catalog Rat} {options : Options Rat} {bp : Breakpoint} {b : GridBox Rat}
    (h : b ∈ ((s.arrange sectionId catalog options).1.get bp).values) (axis : Axis) :
    0 < b.diagonal.along axis := by
  obtain ⟨m, hm, hdiag⟩ := exists_sizedMember_of_mem_arrange h
  obtain ⟨d, -, hsizes⟩ := mem_sizedMembers hm
  have hpos : 0 < (m.2.get bp).along axis := by
    rw [hsizes]
    exact Coordinate.along_pos_of_usable
      (d.usable_sizes (by decide) catalog options ⟨sectionId, m.1⟩ bp) axis
  rw [hdiag, Coordinate.along_abs, Scalar.abs_rat]
  exact abs_pos.mpr hpos.ne'

end GridLayout
