import GridLayout.Proofs.Faultless

/-!
# What a dimension comes to

A dimension names a shape at a breakpoint or does not, and the catalog knows a size for the shape or
does not, and the size is one that a box can have or is not.  `Dimension.Resolves` says what each of
these comes to: a size, or the code of what is wrong.  Exactly one of its rules applies at every
breakpoint, whatever the dimension and the catalog hold.

The two readings of a look-up go by the same outcome.  A size is the one that the outcome has, or
the fallback; a report is there when the outcome has none, and has its code.  A name that serves for
all breakpoints is looked up once, so it is reported once and about no breakpoint.

* `isUsableSize_iff`: sizes that a box can have.
* `Dimension.resolves_iff`: what a look-up answers.
* `Dimension.reported_issuesAt`: one report where there is no size, and none where there is one.
* `Dimension.sizes_reported`: sizes and reports of a dimension, over the numbers of documents, which
  may be infinite or none at all.
-/

namespace GridLayout

variable {α : Type} [Scalar α]

/-! ## Sizes -/

/-- A size that a box can have: on both axes finite and above zero. -/
def Coordinate.IsSize (size : Coordinate α) : Prop :=
  ∀ axis, Scalar.isFinite (size.along axis) = true ∧ Scalar.lt Scalar.zero (size.along axis) = true

theorem isUsableSize_iff {width height : α} :
    isUsableSize width height = true ↔ (⟨width, height⟩ : Coordinate α).IsSize := by
  simp only [isUsableSize, Bool.and_eq_true]
  constructor
  · rintro ⟨⟨⟨hfx, hfy⟩, hpx⟩, hpy⟩ axis
    cases axis with
    | x => exact ⟨hfx, hpx⟩
    | y => exact ⟨hfy, hpy⟩
  · intro h
    exact ⟨⟨⟨(h .x).1, (h .y).1⟩, (h .x).2⟩, (h .y).2⟩

/-- A look-up in the catalog that fails is reported about the breakpoint it was made for. -/
theorem Catalog.breakpoint?_of_find {catalog : Catalog α} {shape : String} {box : BoxPlace}
    {bp : Option Breakpoint} {fallback : Coordinate α} {issue : Issue α}
    (h : catalog.find shape box bp fallback = .error issue) : issue.breakpoint? = bp := by
  rw [find] at h
  split at h
  · split at h
    · cases h
    · rw [← Except.error.inj h]
      rfl
  · rw [← Except.error.inj h]
    rfl

namespace Dimension

/-! ## Outcomes -/

/-- What a dimension comes to at a breakpoint: a size, or the code of what is wrong. -/
inductive Resolves (d : Dimension α) (catalog : Catalog α) (bp : Breakpoint) :
    Except IssueCode (Coordinate α) → Prop
  /-- The catalog has a size for the name. -/
  | size {shape : String} {width height : α} (hshape : d.shape? bp = some shape)
    (hsize : catalog shape = some (width, height))
    (hbox : (⟨width, height⟩ : Coordinate α).IsSize) : Resolves d catalog bp (.ok ⟨width, height⟩)
  /-- There is no name: no entry, an entry that is no name, or no dimension to speak of. -/
  | missing (hshape : d.shape? bp = none) : Resolves d catalog bp (.error .boxShapeMissingBp)
  /-- The catalog does not have the name. -/
  | unknown {shape : String} (hshape : d.shape? bp = some shape) (hsize : catalog shape = none) :
    Resolves d catalog bp (.error .boxShapeUnknown)
  /-- The catalog has the name with a size that no box can have. -/
  | invalid {shape : String} {width height : α} (hshape : d.shape? bp = some shape)
    (hsize : catalog shape = some (width, height))
    (hbox : ¬ (⟨width, height⟩ : Coordinate α).IsSize) :
    Resolves d catalog bp (.error .boxShapeInvalid)

variable {d : Dimension α} {catalog : Catalog α} {bp : Breakpoint}

/-- **What a look-up answers** is what the dimension comes to. -/
theorem resolves_iff (box : BoxPlace) (fallback : Coordinate α)
    {outcome : Except IssueCode (Coordinate α)} :
    d.Resolves catalog bp outcome ↔
      outcome = (d.find catalog box bp fallback).mapError Issue.code := by
  constructor
  · intro h
    cases h with
    | size hshape hsize hbox =>
      obtain ⟨place, hfind⟩ := exists_find_eq catalog box fallback hshape
      rw [hfind, Catalog.find, hsize]
      dsimp only
      rw [if_pos (isUsableSize_iff.mpr hbox)]
      rfl
    | missing hshape =>
      obtain ⟨issue, hfind, hcode⟩ := exists_find_eq_error catalog box fallback hshape
      rw [hfind, Except.mapError, hcode]
    | unknown hshape hsize =>
      obtain ⟨place, hfind⟩ := exists_find_eq catalog box fallback hshape
      rw [hfind, Catalog.find, hsize]
      rfl
    | invalid hshape hsize hbox =>
      obtain ⟨place, hfind⟩ := exists_find_eq catalog box fallback hshape
      rw [hfind, Catalog.find, hsize]
      dsimp only
      rw [if_neg fun husable => hbox (isUsableSize_iff.mp husable)]
      rfl
  · rintro rfl
    cases hshape : d.shape? bp with
    | none =>
      obtain ⟨issue, hfind, hcode⟩ := exists_find_eq_error catalog box fallback hshape
      rw [hfind, Except.mapError, hcode]
      exact .missing hshape
    | some shape =>
      obtain ⟨place, hfind⟩ := exists_find_eq catalog box fallback hshape
      rw [hfind, Catalog.find]
      cases hsize : catalog shape with
      | none => exact .unknown hshape hsize
      | some size =>
        dsimp only
        split
        · next husable => exact .size hshape hsize (isUsableSize_iff.mp husable)
        · next husable =>
          exact .invalid hshape hsize fun hbox => husable (isUsableSize_iff.mpr hbox)

/-- The size at a breakpoint is the one that the dimension comes to, or the fallback. -/
theorem get_sizes (options : Options α) (box : BoxPlace) :
    (d.sizes catalog options box).get bp =
      ((d.find catalog box bp options.fallback).mapError Issue.code).toOption.getD
        options.fallback := by
  rw [sizes, Bps.get_ofFn]
  cases d.find catalog box bp options.fallback <;> rfl

/-! ## Reports -/

/-- What is said about the outcome at one breakpoint: nothing about a size, and otherwise one
warning that has the code of what is wrong. -/
def Reported (reports : List (Diagnostic α)) : Except IssueCode (Coordinate α) → Prop
  | .ok _ => reports = []
  | .error code => ∃ report, reports = [report] ∧ report.code = code ∧ report.severity = .warning

/-- What there is to say about a dimension at one breakpoint. -/
def issuesAt (d : Dimension α) (catalog : Catalog α) (options : Options α) (box : BoxPlace)
    (bp : Breakpoint) : List (Issue α) :=
  match d.find catalog box bp options.fallback with
  | .ok _ => []
  | .error issue => [issue]

theorem issues_eq (d : Dimension α) (catalog : Catalog α) (options : Options α) (box : BoxPlace) :
    d.issues catalog options box = d.lookups.flatMap (d.issuesAt catalog options box) := rfl

/-- **A breakpoint without a size is reported**, once and with its code. -/
theorem reported_issuesAt (options : Options α) (box : BoxPlace) :
    Reported ((d.issuesAt catalog options box bp).map Issue.diagnostic)
      ((d.find catalog box bp options.fallback).mapError Issue.code) := by
  rw [issuesAt]
  cases h : d.find catalog box bp options.fallback with
  | ok size => rfl
  | error issue =>
    have horigin := origin_find h
    exact ⟨issue.diagnostic, rfl, rfl, Issue.severity_eq_warning
      (fun hop => nomatch horigin.symm.trans hop) fun haudit => nomatch horigin.symm.trans haudit⟩

/-- The breakpoint that reports about a dimension name: none where one look-up serves for all. -/
def reportedAt : Dimension α → Breakpoint → Option Breakpoint
  | .uniform _, _ => none
  | _, bp => some bp

theorem breakpoint?_of_find {box : BoxPlace} {fallback : Coordinate α} {issue : Issue α}
    (h : d.find catalog box bp fallback = .error issue) : issue.breakpoint? = d.reportedAt bp := by
  cases d with
  | uniform shape => exact Catalog.breakpoint?_of_find h
  | perBreakpoint entries =>
    rw [find] at h
    split at h
    · exact Catalog.breakpoint?_of_find h
    · rw [← Except.error.inj h]
      rfl
  | malformed raw =>
    rw [← Except.error.inj h]
    rfl

theorem breakpoint?_of_mem_issuesAt {options : Options α} {box : BoxPlace} {issue : Issue α}
    (h : issue ∈ d.issuesAt catalog options box bp) : issue.breakpoint? = d.reportedAt bp := by
  rw [issuesAt] at h
  split at h
  · exact absurd h List.not_mem_nil
  · next hfind =>
    rw [List.mem_singleton.mp h]
    exact breakpoint?_of_find hfind

/-- What one look-up for all breakpoints says is said once. -/
theorem reported_uniform (shape : String) (options : Options α) (box : BoxPlace) :
    Reported (((uniform shape).issues catalog options box).map Issue.diagnostic)
      (((uniform shape).find catalog box bp options.fallback).mapError Issue.code) := by
  rw [issues_eq, lookups, List.flatMap_singleton]
  exact reported_issuesAt options box

/-- Where every breakpoint is looked up, what is said about one of them is what there is to say
there, and every report is about one of them. -/
theorem reported_each (hlookups : d.lookups = Breakpoint.all)
    (hreported : ∀ bp, d.reportedAt bp = some bp) (options : Options α) (box : BoxPlace) :
    (∀ bp, Reported
      (Diagnostic.atBreakpoint ((d.issues catalog options box).map Issue.diagnostic) bp)
      ((d.find catalog box bp options.fallback).mapError Issue.code)) ∧
      ∀ report ∈ (d.issues catalog options box).map Issue.diagnostic,
        ∃ bp, report.breakpoint? = some bp := by
  have hat : ∀ bp, ∀ issue ∈ d.issuesAt catalog options box bp, issue.breakpoint? = some bp :=
    fun bp issue h => (breakpoint?_of_mem_issuesAt h).trans (hreported bp)
  rw [issues_eq, hlookups]
  constructor
  · intro bp
    rw [Issue.atBreakpoint_map_diagnostic,
      Issue.filter_flatMap_of (fun h => eq_of_beq h) (fun bp issue h => beq_iff_eq.mpr (hat bp _ h))
        (by decide), if_pos (Breakpoint.mem_all bp)]
    exact reported_issuesAt options box
  · refine List.forall_mem_map.mpr fun issue hissue => ?_
    obtain ⟨bp, -, h⟩ := List.mem_flatMap.mp hissue
    exact ⟨bp, (Issue.breakpoint?_diagnostic issue).trans (hat bp issue h)⟩

/-! ## Sizes with their reports -/

/-- **What a dimension comes to.**  At every breakpoint one rule applies, and only one.  The size is
the one of the catalog when that is a size that a box can have, and otherwise the fallback, so every
size is one that a box can have.  A name for all breakpoints is reported at most once; otherwise
every breakpoint that got the fallback is reported once, and no other is.  What is reported has the
code of the rule. -/
theorem sizes_reported (d : Dimension Float) (catalog : Catalog Float) (options : Options Float)
    (box : BoxPlace) :
    let reports := (d.issues catalog options box).map Issue.diagnostic
    ∃ outcome : Breakpoint → Except IssueCode (Coordinate Float),
      (∀ bp other, d.Resolves catalog bp other ↔ other = outcome bp) ∧
      (∀ bp, (d.sizes catalog options box).get bp =
        (outcome bp).toOption.getD options.fallback) ∧
      (∀ bp, ((d.sizes catalog options box).get bp).IsSize) ∧
      match d with
      | .uniform _ => ∀ bp, Reported reports (outcome bp)
      | _ => (∀ bp, Reported (Diagnostic.atBreakpoint reports bp) (outcome bp)) ∧
          ∀ report ∈ reports, ∃ bp, report.breakpoint? = some bp := by
  intro reports
  refine ⟨fun bp => (d.find catalog box bp options.fallback).mapError Issue.code,
    fun _ _ => resolves_iff box options.fallback, fun _ => get_sizes options box, fun bp => ?_, ?_⟩
  · exact isUsableSize_iff.mp (d.usable_sizes (by decide) catalog options box bp)
  · cases d with
    | uniform shape => exact fun _ => reported_uniform shape options box
    | perBreakpoint entries => exact reported_each rfl (fun _ => rfl) options box
    | malformed raw => exact reported_each rfl (fun _ => rfl) options box

end Dimension

end GridLayout
