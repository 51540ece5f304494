/-!
# Breakpoints

A layout is solved at five screen sizes, each on its own.  A `Bps` holds one value per breakpoint;
a `Responsive` is what a document may write instead, one value for all of them or a choice of some.

`Bps` is a record of five fields rather than a function, so that a value is computed once.  It is
pinned by `get_ofFn` and `ext_get`: reading is all there is to it.
-/

namespace GridLayout

/-- A screen size, smallest first. -/
inductive Breakpoint where
  | xs
  | sm
  | md
  | lg
  | xl
  deriving DecidableEq, Repr

namespace Breakpoint

/-- All breakpoints, smallest first. -/
def all : List Breakpoint := [.xs, .sm, .md, .lg, .xl]

@[simp] theorem mem_all (bp : Breakpoint) : bp ∈ all := by cases bp <;> decide

/-- The name of a breakpoint in documents. -/
def name : Breakpoint → String
  | .xs => "xs"
  | .sm => "sm"
  | .md => "md"
  | .lg => "lg"
  | .xl => "xl"

/-- The breakpoint of a name, case and all. -/
def ofName? (s : String) : Option Breakpoint := all.find? fun bp => bp.name == s

@[simp] theorem ofName?_name (bp : Breakpoint) : ofName? bp.name = some bp := by
  cases bp <;> decide +kernel

/-- What is said about a name that no breakpoint has. -/
def unknownText (s : String) : String :=
  s!"unknown breakpoint '{s}' (expected one of xs, sm, md, lg, xl)"

end Breakpoint

/-! ## A value for every breakpoint -/

/-- A value for every breakpoint. -/
structure Bps (β : Type) where
  xs : β
  sm : β
  md : β
  lg : β
  xl : β
  deriving DecidableEq, Repr

namespace Bps

variable {β γ : Type}

/-- The value at a breakpoint. -/
def get (b : Bps β) : Breakpoint → β
  | .xs => b.xs
  | .sm => b.sm
  | .md => b.md
  | .lg => b.lg
  | .xl => b.xl

/-- The record of a function's values. -/
def ofFn (f : Breakpoint → β) : Bps β := ⟨f .xs, f .sm, f .md, f .lg, f .xl⟩

@[simp] theorem get_ofFn (f : Breakpoint → β) (bp : Breakpoint) : (ofFn f).get bp = f bp := by
  cases bp <;> rfl

@[simp] theorem ofFn_get (b : Bps β) : ofFn b.get = b := rfl

/-- Two records with the same values are equal. -/
@[ext]
theorem ext_get {a b : Bps β} (h : ∀ bp, a.get bp = b.get bp) : a = b := by
  rw [← ofFn_get a, ← ofFn_get b, funext h]

/-- The same value everywhere. -/
def splat (v : β) : Bps β := ofFn fun _ => v

/-- Applies a function that may look at the breakpoint. -/
def map (f : Breakpoint → β → γ) (b : Bps β) : Bps γ := ofFn fun bp => f bp (b.get bp)

@[simp] theorem get_splat (v : β) (bp : Breakpoint) : (splat v).get bp = v := by simp [splat]

@[simp] theorem get_map (f : Breakpoint → β → γ) (b : Bps β) (bp : Breakpoint) :
    (b.map f).get bp = f bp (b.get bp) := by simp [map]

/-- The record with one value replaced. -/
def set (b : Bps β) (bp : Breakpoint) (v : β) : Bps β :=
  ofFn fun bp' => if bp' = bp then v else b.get bp'

@[simp] theorem get_set (b : Bps β) (bp bp' : Breakpoint) (v : β) :
    (b.set bp v).get bp' = if bp' = bp then v else b.get bp' := by simp [set]

/-- The values, smallest breakpoint first. -/
def toList (b : Bps β) : List β := Breakpoint.all.map b.get

/-- The values with their breakpoints, smallest first. -/
def entries (b : Bps β) : List (Breakpoint × β) := Breakpoint.all.map fun bp => (bp, b.get bp)

end Bps

/-! ## What a document may write instead -/

/-- One value for all breakpoints, or values for some of them. -/
inductive Responsive (β : Type) where
  | uniform (value : β)
  | perBreakpoint (values : Bps (Option β))
  deriving Repr

namespace Responsive

variable {β : Type}

/-- The value that applies at a breakpoint, if any. -/
def get? : Responsive β → Breakpoint → Option β
  | .uniform v, _ => some v
  | .perBreakpoint b, bp => b.get bp

@[simp] theorem get?_uniform (v : β) (bp : Breakpoint) : (uniform v).get? bp = some v := rfl

@[simp] theorem get?_perBreakpoint (b : Bps (Option β)) (bp : Breakpoint) :
    (perBreakpoint b).get? bp = b.get bp := rfl

end Responsive

end GridLayout
