import GridLayout.Arrange.Section

/-!
# The breakpoint of a report

A report names its breakpoint in its details, which are raw data in canonical form.  An issue
carries its breakpoint as such.  The two are the same, whatever else the details hold: canonical
form sorts the fields by key and keeps the last of every key, and `bp` is a key of its own.

* `Value.lookup_canonicalFields`: a field in canonical form is the last one of its key.
* `Issue.breakpoint?_diagnostic`: the breakpoint that is read off a report is that of its issue.
* `origin_orderIssues`: what does not line up between two orders is reported as a matter of orders.
* `Issue.filter_map_diagnostic`: the reports of the stages that place boxes, as issues.
* `Issue.filter_flatMap`: out of the issues of several breakpoints, those of one.
-/

namespace GridLayout

variable {α : Type}

/-! ## Canonical fields -/

namespace Value

theorem lookup_cons_eq (e : String × Value α) (l : List (String × Value α)) (key : String) :
    (e :: l).lookup key = if key = e.1 then some e.2 else l.lookup key := by
  rw [List.lookup_cons]
  by_cases h : key = e.1
  · rw [if_pos h, h, beq_self_eq_true]
  · rw [if_neg h, beq_false_of_ne h]

/-- The field that is put in is found under its key, and nothing else changes. -/
theorem lookup_insertField (key : String) (v : Value α) (l : List (String × Value α))
    (k : String) : (insertField key v l).lookup k = if k = key then some v else l.lookup k := by
  induction l with
  | nil => rw [insertField, lookup_cons_eq]
  | cons e rest ih =>
    obtain ⟨k', w⟩ := e
    rw [insertField]
    split
    · next h =>
      rw [lookup_cons_eq, lookup_cons_eq, h]
      by_cases hk : k = k'
      · rw [if_pos hk, if_pos hk]
      · rw [if_neg hk, if_neg hk, if_neg hk]
    · next h =>
      split
      · rw [lookup_cons_eq]
      · rw [lookup_cons_eq, ih, lookup_cons_eq]
        by_cases hk : k = key
        · rw [if_pos hk, if_pos hk, if_neg fun e => h (hk.symm.trans e)]
        · rw [if_neg hk, if_neg hk]

variable [Scalar α]

/-- **A field in canonical form** is the last one of its key, itself in canonical form. -/
theorem lookup_canonicalFields (fields : List (String × Value α)) (key : String) :
    (canonicalFields fields).lookup key = (fields.reverse.lookup key).map canonical := by
  induction fields with
  | nil => rfl
  | cons e rest ih =>
    obtain ⟨k, v⟩ := e
    have happ : (((k, v) :: rest).reverse.lookup key).map canonical =
        ((canonicalFields rest).lookup key).or (if key = k then some (canonical v) else none) := by
      rw [List.reverse_cons, List.lookup_append, lookup_cons_eq, ih, Option.map_or, List.lookup_nil]
      split <;> rfl
    rw [happ, canonicalFields]
    cases hany : (canonicalFields rest).any fun e => e.1 == k with
    | true =>
      -- a later field has the key `k`, so this one is never looked at
      rw [if_pos rfl]
      by_cases hk : key = k
      · have hsome : ((canonicalFields rest).lookup key).isSome := by
          obtain ⟨e, he, hek⟩ := List.any_eq_true.mp hany
          exact List.lookup_isSome_iff.mpr ⟨e, he, beq_iff_eq.mpr (hk.trans (eq_of_beq hek).symm)⟩
        rw [Option.or_of_isSome hsome]
      · rw [if_neg hk, Option.or_none]
    | false =>
      rw [if_neg Bool.false_ne_true, lookup_insertField]
      by_cases hk : key = k
      · have hnone : (canonicalFields rest).lookup key = none := by
          refine List.lookup_eq_none_iff.mpr fun e he => bne_iff_ne.mpr fun hek => ?_
          exact List.any_eq_false.mp hany e he (beq_iff_eq.mpr (hek.symm.trans hk))
        rw [if_pos hk, if_pos hk, hnone, Option.none_or]
      · rw [if_neg hk, if_neg hk, Option.or_none]

end Value

/-! ## Breakpoints -/

/-- The breakpoint an issue is about, if it is about one. -/
def Issue.breakpoint? : Issue α → Option Breakpoint
  | .defaultUnusable .. => none
  | .shapeMissing _ bp .. => some bp
  | .shapeMalformed _ bp .. => some bp
  | .shapeUnknown _ bp .. => bp
  | .shapeInvalid _ bp .. => bp
  | .noDimension .. => none
  | .sectionEmpty _ bp => some bp
  | .operation scope .. => some scope.bp
  | .gridEmpty bp => some bp
  | .gridShifted bp .. => some bp
  | .overlap _ bp .. => some bp
  | .orderRepeated .. => none
  | .orderMismatch .. => none

section

variable [Scalar α]

/-- The breakpoint that a field names. -/
def Value.namedBreakpoint? (v : Value α) : Option Breakpoint :=
  v.canonical.string?.bind Breakpoint.ofName?

theorem Value.namedBreakpoint?_name (bp : Breakpoint) :
    (Value.string bp.name : Value α).namedBreakpoint? = some bp := by
  rw [namedBreakpoint?, canonical]
  exact Breakpoint.ofName?_name bp

theorem Value.namedBreakpoint?_optionalText (bp : Option Breakpoint) :
    (optionalText (bp.map Breakpoint.name) : Value α).namedBreakpoint? = bp := by
  cases bp with
  | none =>
    rw [Option.map_none, optionalText, namedBreakpoint?, canonical]
    rfl
  | some bp => exact namedBreakpoint?_name bp

/-- A report is about a breakpoint when the last `bp` among the details of its issue names it. -/
theorem Issue.breakpoint?_diagnostic_eq (i : Issue α) :
    i.diagnostic.breakpoint? =
      (i.details.reverse.lookup "bp").bind Value.namedBreakpoint? := by
  have hfield : i.diagnostic.breakpoint? =
      (((Value.canonicalFields i.details).lookup "bp").bind Value.string?).bind
        Breakpoint.ofName? := rfl
  rw [hfield, Value.lookup_canonicalFields, Option.bind_map, Option.bind_assoc]
  rfl

/-- **The breakpoint that is read off a report is that of its issue.** -/
theorem Issue.breakpoint?_diagnostic (i : Issue α) :
    i.diagnostic.breakpoint? = i.breakpoint? := by
  rw [breakpoint?_diagnostic_eq]
  cases i <;>
    simp [details, breakpoint?, boxDetails, Value.lookup_cons_eq, Value.namedBreakpoint?_name,
      Value.namedBreakpoint?_optionalText]

end

/-- The reports with a code, as issues. -/
theorem Issue.withCode_map_diagnostic [Scalar α] (issues : List (Issue α)) (code : IssueCode) :
    Diagnostic.withCode (issues.map diagnostic) code =
      (issues.filter fun issue => issue.code == code).map diagnostic := by
  rw [Diagnostic.withCode, List.filter_map]
  rfl

/-- The reports about a breakpoint, as issues. -/
theorem Issue.atBreakpoint_map_diagnostic [Scalar α] (issues : List (Issue α)) (bp : Breakpoint) :
    Diagnostic.atBreakpoint (issues.map diagnostic) bp =
      (issues.filter fun issue => issue.breakpoint? == some bp).map diagnostic := by
  rw [Diagnostic.atBreakpoint, List.filter_map]
  refine congrArg (List.map _) (List.filter_congr fun issue _ => ?_)
  rw [Function.comp_apply, breakpoint?_diagnostic]

/-! ## Reports about orders -/

/-- What a walk through a list of ids comes to is what it says about single ids. -/
theorem mem_walkIds {first again : String → List (Issue α)} {seen ids : List String}
    {issue : Issue α} (h : issue ∈ walkIds first again seen ids) :
    ∃ id, issue ∈ first id ∨ issue ∈ again id := by
  induction ids generalizing seen with
  | nil => exact absurd h List.not_mem_nil
  | cons id rest ih =>
    rw [walkIds] at h
    split at h
    · rcases List.mem_append.mp h with hid | hrest
      · exact ⟨id, Or.inr hid⟩
      · exact ih hrest
    · rcases List.mem_append.mp h with hid | hrest
      · exact ⟨id, Or.inl hid⟩
      · exact ih hrest

theorem origin_orderIssues {context : String} {ids reference : List String} {issue : Issue α}
    (h : issue ∈ orderIssues context ids reference) : issue.origin = .ordering := by
  rw [orderIssues, List.mem_append, List.mem_append] at h
  rcases h with (h | h) | h
  · obtain ⟨id, hfirst | hagain⟩ := mem_walkIds h
    · exact absurd hfirst List.not_mem_nil
    · rw [List.mem_singleton.mp hagain]
      rfl
  · obtain ⟨id, hfirst | hagain⟩ := mem_walkIds h
    · split at hfirst
      · exact absurd hfirst List.not_mem_nil
      · rw [List.mem_singleton.mp hfirst]
        rfl
    · rw [List.mem_singleton.mp hagain]
      rfl
  · obtain ⟨id, -, rfl⟩ := List.mem_map.mp h
    rfl

theorem SectionSpec.origin_orderIssues {s : SectionSpec α} {sectionId : String} {issue : Issue α}
    (h : issue ∈ s.orderIssues sectionId) : issue.origin = .ordering := by
  rw [SectionSpec.orderIssues] at h
  split at h
  · exact GridLayout.origin_orderIssues h
  · exact absurd h List.not_mem_nil

/-! ## Reports of placing boxes -/

/-- Whether a stage places boxes.  The other stages read what is written: sizes, dimensions and
orders. -/
def Origin.isPlacement : Origin → Bool
  | .transformation => true
  | .sectionBounds => true
  | .absoluteLayout => true
  | .overlap => true
  | .boxShape => false
  | .localLayout => false
  | .ordering => false

/-- Whether a report is about placing boxes at a breakpoint. -/
def Diagnostic.isPlacementAt (bp : Breakpoint) (d : Diagnostic α) : Bool :=
  d.breakpoint? == some bp && d.origin.isPlacement

namespace Issue

/-- Whether an issue is about placing boxes at a breakpoint. -/
def isPlacementAt (bp : Breakpoint) (i : Issue α) : Bool :=
  i.breakpoint? == some bp && i.origin.isPlacement

theorem filter_map_diagnostic [Scalar α] (bp : Breakpoint) (issues : List (Issue α)) :
    (issues.map diagnostic).filter (Diagnostic.isPlacementAt bp) =
      (issues.filter (isPlacementAt bp)).map diagnostic := by
  rw [List.filter_map]
  congr 1
  refine List.filter_congr fun i _ => ?_
  show (i.diagnostic.breakpoint? == some bp && i.origin.isPlacement) = i.isPlacementAt bp
  rw [breakpoint?_diagnostic, isPlacementAt]

theorem breakpoint?_of_isPlacementAt {bp : Breakpoint} {i : Issue α}
    (h : i.isPlacementAt bp = true) : i.breakpoint? = some bp :=
  eq_of_beq (Bool.and_eq_true_iff.mp h).1

theorem filter_eq_nil_of_origin {issues : List (Issue α)}
    (h : ∀ i ∈ issues, i.origin.isPlacement = false) (bp : Breakpoint) :
    issues.filter (isPlacementAt bp) = [] := by
  refine List.filter_eq_nil_iff.mpr fun i hi => ?_
  rw [isPlacementAt, h i hi, Bool.and_false]
  exact Bool.false_ne_true

/-- **Out of the issues of several breakpoints, those of one**: they are all there when the
breakpoint is one of the several, and none otherwise. -/
theorem filter_flatMap_of {keep : Breakpoint → Issue α → Bool}
    (hkeep : ∀ {bp i}, keep bp i = true → i.breakpoint? = some bp)
    {f : Breakpoint → List (Issue α)} (hf : ∀ bp, ∀ i ∈ f bp, keep bp i = true)
    {bps : List Breakpoint} (hbps : bps.Nodup) (bp : Breakpoint) :
    (bps.flatMap f).filter (keep bp) = if bp ∈ bps then f bp else [] := by
  induction bps with
  | nil => rfl
  | cons bp' rest ih =>
    rw [List.nodup_cons] at hbps
    rw [List.flatMap_cons, List.filter_append, ih hbps.2]
    by_cases h : bp = bp'
    · subst h
      rw [if_neg hbps.1, if_pos List.mem_cons_self, List.append_nil]
      exact List.filter_eq_self.mpr (hf bp)
    · have hother : (f bp').filter (keep bp) = [] := by
        refine List.filter_eq_nil_iff.mpr fun i hi hbp => h ?_
        have hbp' := hkeep (hf bp' i hi)
        rw [hkeep hbp] at hbp'
        exact Option.some_inj.mp hbp'
      rw [hother, List.nil_append]
      simp only [List.mem_cons, h, false_or]

theorem filter_flatMap {f : Breakpoint → List (Issue α)}
    (hf : ∀ bp, ∀ i ∈ f bp, i.isPlacementAt bp = true) {bps : List Breakpoint} (hbps : bps.Nodup)
    (bp : Breakpoint) :
    (bps.flatMap f).filter (isPlacementAt bp) = if bp ∈ bps then f bp else [] :=
  filter_flatMap_of breakpoint?_of_isPlacementAt hf hbps bp

theorem filter_flatMap_all {f : Breakpoint → List (Issue α)}
    (hf : ∀ bp, ∀ i ∈ f bp, i.isPlacementAt bp = true) (bp : Breakpoint) :
    (Breakpoint.all.flatMap f).filter (isPlacementAt bp) = f bp := by
  rw [filter_flatMap hf (by decide), if_pos (Breakpoint.mem_all bp)]

end Issue

end GridLayout
