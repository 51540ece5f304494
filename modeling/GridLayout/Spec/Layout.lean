import GridLayout.Breakpoint
import GridLayout.Spec.Operation

/-!
# Layouts as they are written

A layout is a list of sections, a section is a list of boxes, and both come with operations that
arrange them, the same at every breakpoint or chosen per breakpoint.  Nothing here has been checked;
the solve reports what it cannot use.
-/

namespace GridLayout

variable {α : Type}

/-! ## Boxes -/

/-- How the size of a box is given. -/
inductive Dimension (α : Type) where
  /-- One shape name for every breakpoint. -/
  | uniform (shape : String)
  /-- Entries by breakpoint name.  Each stands for itself, and other keys count for nothing. -/
  | perBreakpoint (entries : List (String × Value α))
  /-- Anything else. -/
  | malformed (raw : Value α)
  deriving Repr

namespace Dimension

/-- The raw entry of a breakpoint. -/
def entry? : Dimension α → Breakpoint → Option (Value α)
  | .perBreakpoint entries, bp => entries.lookup bp.name
  | _, _ => none

/-- Shape names for some breakpoints, the last one given for a breakpoint winning. -/
def ofShapes (entries : List (Breakpoint × String)) : Dimension α :=
  .perBreakpoint (entries.foldl
    (fun acc e => Value.insertField e.1.name (.string e.2) acc) [])

end Dimension

/-- A box of a section.  One without a dimension takes no part in the layout. -/
structure BoxSpec (α : Type) where
  dimension : Option (Dimension α)
  deriving Repr

/-! ## Sections and layouts -/

/-- The operations of a list, at all breakpoints or per breakpoint. -/
abbrev Schedule (α : Type) := Responsive (List (Operation α))

/-- The operations that a schedule, if there is one, has at a breakpoint. -/
def Schedule.at? (schedule : Option (Schedule α)) (bp : Breakpoint) : List (Operation α) :=
  ((schedule.bind fun s => s.get? bp)).getD []

/-- A group of boxes laid out together. -/
structure SectionSpec (α : Type) where
  boxes : IdMap (BoxSpec α)
  /-- Operations on the boxes. -/
  schedule : Option (Schedule α)
  /-- The order in which the boxes are to be enumerated. -/
  order : Option (List String)

/-- A layout as it is written. -/
structure LayoutSpec (α : Type) where
  sections : IdMap (SectionSpec α)
  /-- Operations on the sections, each known by its id. -/
  schedule : Option (Schedule α)

/-- A section with nothing in it. -/
def SectionSpec.empty : SectionSpec α := ⟨IdMap.empty, none, none⟩

/-- A layout with nothing in it. -/
def LayoutSpec.empty : LayoutSpec α := ⟨IdMap.empty, none⟩

/-- Sizes by shape name. -/
abbrev Catalog (α : Type) := String → Option (α × α)

end GridLayout
