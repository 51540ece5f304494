import GridLayout.Arrange.Section

/-!
# Bounding boxes of sections

To the sections around it, a section is one box: the smallest one around its boxes.  A section
without boxes at a breakpoint is an empty box there, and is reported.
-/

namespace GridLayout

variable {α : Type} [Scalar α]

/-- The smallest box around some boxes. -/
def enclosing? (boxes : BoxMap α) : Option (GridBox α) :=
  match boxes.values with
  | [] => none
  | b :: rest => some (rest.foldl GridBox.union b)

/-- The bounding box of a section at every breakpoint. -/
def LocalBoxes.bounds (boxes : LocalBoxes α) : Bps (GridBox α) :=
  boxes.map fun _ b => (enclosing? b).getD GridBox.empty

/-- The breakpoints at which a section has no boxes. -/
def LocalBoxes.emptyIssues (boxes : LocalBoxes α) (sectionId : String) : List (Issue α) :=
  boxes.entries.flatMap fun e => if e.2.isEmpty then [.sectionEmpty sectionId e.1] else []

/-- The bounding boxes of all sections. -/
def sectionBounds (sections : IdMap (LocalBoxes α)) :
    IdMap (Bps (GridBox α)) × List (Issue α) :=
  (sections.map LocalBoxes.bounds,
    sections.entries.flatMap fun e => LocalBoxes.emptyIssues e.2 e.1)

end GridLayout
