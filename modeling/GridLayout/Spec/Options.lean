import GridLayout.Breakpoint
import GridLayout.Geometry.Coordinate

/-!
# Options of a solve

Whether overlaps are reported, at which breakpoints they are looked for, and the size of a box whose
own size cannot be found.
-/

namespace GridLayout

/-! ## Overlap policy -/

/-- What to do about two boxes that overlap. -/
inductive OverlapPolicy where
  /-- Nothing: overlaps are not looked for. -/
  | allow
  /-- Report them as warnings. -/
  | warn
  /-- Report them as errors. -/
  | error
  deriving DecidableEq, Repr

namespace OverlapPolicy

/-- All policies. -/
def all : List OverlapPolicy := [.allow, .warn, .error]

/-- The name of a policy. -/
def name : OverlapPolicy → String
  | .allow => "allow"
  | .warn => "warn"
  | .error => "error"

/-- The policy of a name, case and all. -/
def ofName? (s : String) : Option OverlapPolicy := all.find? fun p => p.name == s

@[simp] theorem ofName?_name (p : OverlapPolicy) : ofName? p.name = some p := by
  cases p <;> decide +kernel

/-- What is said about a name that no policy has. -/
def unknownText (s : String) : String :=
  s!"unknown overlap policy '{s}' (expected allow, warn or error)"

end OverlapPolicy

/-! ## Sizes -/

variable {α : Type} [Scalar α]

/-- Whether a width and a height can be those of a box: finite and above zero. -/
def isUsableSize (width height : α) : Bool :=
  Scalar.isFinite width && Scalar.isFinite height && Scalar.lt Scalar.zero width &&
    Scalar.lt Scalar.zero height

/-! ## Options -/

/-- The options of a solve. -/
structure Options (α : Type) where
  overlapPolicy : OverlapPolicy
  /-- The breakpoints at which overlaps are looked for. -/
  overlapBreakpoints : List Breakpoint
  /-- Width and height of a box whose own size cannot be found. -/
  defaultSize : α × α
  deriving Repr

namespace Options

/-- What holds when nothing is said: overlaps are allowed, and boxes default to one cell. -/
def default : Options α := ⟨.allow, Breakpoint.all, (Scalar.one, Scalar.one)⟩

/-- Whether the default size can be used as it is. -/
def hasUsableDefault (o : Options α) : Bool := isUsableSize o.defaultSize.1 o.defaultSize.2

/-- The size of a box whose own size cannot be found: the default size, or one cell when that cannot
be used. -/
def fallback (o : Options α) : Coordinate α :=
  if o.hasUsableDefault then ⟨o.defaultSize.1, o.defaultSize.2⟩ else ⟨Scalar.one, Scalar.one⟩

end Options

end GridLayout
