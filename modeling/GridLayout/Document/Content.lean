import GridLayout.Document.Record
import GridLayout.Document.Soft
import GridLayout.Spec.Options

/-!
# The contents of a document

A document holds the options of a solve, a catalog of shapes and a layout, and each of them may be
left out.  This module says how they are found in a tree.
-/

namespace GridLayout

/-- What a document holds. -/
structure Document where
  options : Options Float
  shapes : IdMap (Float × Float)
  layout : LayoutSpec Float

namespace Document

/-- The document in which nothing is said. -/
def empty : Document := ⟨Options.default, IdMap.empty, LayoutSpec.empty⟩

/-- The shapes as a catalog. -/
def catalog (d : Document) : Catalog Float := d.shapes.get?

variable (format : Format)

/-! ## Options -/

/-- A breakpoint. -/
def readBreakpoint (node : Node) : Except Fault Breakpoint :=
  node.name format (Breakpoint.all.map fun bp => (bp.name, bp))

/-- A policy. -/
def readPolicy (node : Node) : Except Fault OverlapPolicy :=
  node.name format (OverlapPolicy.all.map fun p => (p.name, p))

/-- The options of a solve. -/
def readOptions (node : Node) : Except Fault (Options Float) :=
  node.record format "SolverConfig" [
    ⟨"overlap_policy", true, fun n => do
      let p ← readPolicy format n
      return fun o => { o with overlapPolicy := p }⟩,
    ⟨"overlap_breakpoints", true, fun n => do
      let bps ← n.listOf format (readBreakpoint format)
      return fun o => { o with overlapBreakpoints := bps }⟩,
    ⟨"default_box_size", true, fun n => do
      let size ← n.pair format "a tuple of size 2"
      return fun o => { o with defaultSize := size }⟩] Options.default

/-! ## Shapes -/

/-- The shapes of a catalog. -/
def readShapes (node : Node) : Except Fault (IdMap (Float × Float)) :=
  node.mapOf format "a map" fun n => n.pair format "an array of length 2"

/-! ## Layouts -/

/-- Operations for the breakpoints. -/
def readSchedule (node : Node) : Except Fault (Schedule Float) := do
  let v ← node.raw
  match Schedule.ofValue? v with
  | some s => return s
  | none => throw (.mismatch (.noAlternative "Responsive") (format.afterSpan node.place))

/-- A dimension. -/
def readDimension (node : Node) : Except Fault (Dimension Float) := do
  let v ← node.raw
  return Dimension.ofValue v

/-- A box. -/
def readBox (node : Node) : Except Fault (BoxSpec Float) :=
  node.record format "BoxSpec" [
    ⟨"dimension", false, fun n => do
      let d ← n.optional readDimension
      return fun _ => ⟨d⟩⟩] ⟨none⟩

/-- A section. -/
def readSection (node : Node) : Except Fault (SectionSpec Float) :=
  node.record format "SectionSpec" [
    ⟨"boxes", true, fun n => do
      let boxes ← n.mapOf format "a map keyed by id" (readBox format)
      return fun s => { s with boxes := boxes }⟩,
    ⟨"transformations", false, fun n => do
      let schedule ← n.optional (readSchedule format)
      return fun s => { s with schedule := schedule }⟩,
    ⟨"order", false, fun n => do
      let order ← n.optional (Node.listOf format (Node.text format))
      return fun s => { s with order := order }⟩] SectionSpec.empty

/-- A layout. -/
def readLayout (node : Node) : Except Fault (LayoutSpec Float) :=
  node.record format "LayoutSpec" [
    ⟨"sections", true, fun n => do
      let sections ← n.mapOf format "a map keyed by id" (readSection format)
      return fun l => { l with sections := sections }⟩,
    ⟨"transformations", false, fun n => do
      let schedule ← n.optional (readSchedule format)
      return fun l => { l with schedule := schedule }⟩] LayoutSpec.empty

/-! ## Documents -/

/-- A whole document. -/
def readDocument (node : Node) : Except Fault Document :=
  node.record format "LayoutDocument" [
    ⟨"solver", true, fun n => do
      let options ← readOptions format n
      return fun d => { d with options := options }⟩,
    ⟨"shapes", true, fun n => do
      let shapes ← readShapes format n
      return fun d => { d with shapes := shapes }⟩,
    ⟨"layout", true, fun n => do
      let layout ← readLayout format n
      return fun d => { d with layout := layout }⟩] empty

end Document

end GridLayout
