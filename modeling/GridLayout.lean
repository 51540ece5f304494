import GridLayout.CommandLine
import GridLayout.Document.LoadError
import GridLayout.Main
import GridLayout.Solution
import GridLayout.Text.Lines
import GridLayout.Proofs.IdMap
import GridLayout.Proofs.Outcomes
import GridLayout.Proofs.Rigid
import GridLayout.Proofs.Enclosure
import GridLayout.Proofs.Sizes
import GridLayout.Proofs.Slices
import GridLayout.Proofs.GridLines
import GridLayout.Proofs.Dimensions
import GridLayout.Proofs.Reports
import GridLayout.Proofs.Breakpoints
import GridLayout.Proofs.Transpose.Operations
import GridLayout.Proofs.Transpose.Sections
import GridLayout.Proofs.Transpose.Grid
import GridLayout.Proofs.Ordering
import GridLayout.Proofs.Overlaps
import GridLayout.Proofs.Placement
import GridLayout.Proofs.Reported
import GridLayout.Proofs.Runs
import GridLayout.Proofs.Strict
import GridLayout.Proofs.Inventory
import GridLayout.Proofs.Stacking
import GridLayout.Proofs.Faultless
import GridLayout.Proofs.Atomicity
import GridLayout.Proofs.Boxwise
import GridLayout.Proofs.Enumeration
import GridLayout.Proofs.Rebasing
import GridLayout.Proofs.Soft.Shapes
import GridLayout.Proofs.Soft.Trees
import GridLayout.Proofs.Soft.Records
import GridLayout.Proofs.Soft.Schedules
import GridLayout.Proofs.Soft.Loading
import GridLayout.Proofs.Deletion
import GridLayout.Proofs.Landing
import GridLayout.Proofs.Alignment
import GridLayout.Proofs.StackPlaces
import GridLayout.Proofs.Independence
import GridLayout.Proofs.LeastBounds
import GridLayout.Proofs.RigidSections
import GridLayout.Proofs.FirstLine
import GridLayout.Proofs.FirstOccurrences
import GridLayout.Proofs.Audit
import GridLayout.Proofs.ReferenceOrder
import GridLayout.Proofs.Resolution
import GridLayout.Proofs.PairKey
import GridLayout.Proofs.Edits
import GridLayout.Proofs.EditDistance
import GridLayout.Proofs.Suggestions
import GridLayout.Proofs.Histories
import GridLayout.Proofs.Positions
import GridLayout.Proofs.FaultSpans
import GridLayout.Proofs.QuarterTurns
