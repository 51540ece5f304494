import GridLayout.Proofs.Arguments
import GridLayout.Proofs.Atomicity
import GridLayout.Proofs.EditDistance
import GridLayout.Proofs.ReferenceOrder

/-!
# Suggestions for an unknown id

An operation that names a box that is not there fails, and its report suggests ids of nearly that
name.  `Suggests` says what a good list of suggestions is, without regard to how it is found: a few
ids at distance one or two, in the order of `Nearer`, which goes by distance and then by place, and
nothing left out that would have come before something listed.

The ids at one distance keep their places, and the distances are taken in turn, so the candidates as
a whole are sorted by `Nearer`.  Whatever is cut off behind the third candidate then comes after
every one that is kept.

* `near_suggests`: the names found near another one are good suggestions.
* `Failure.Honest`: a failure says of an unknown box only what is so, and suggests well.
* `Operation.check_honest`, `Operation.honest_of_mem_runAll`: every failure of an operation is
  honest, on its own and in a list of operations.
* `unknownBox_suggestions`: what is recorded about an unknown id.
-/

namespace GridLayout

/-! ## Good suggestions -/

/-- One name comes before another as a suggestion: it is closer, or as close and earlier among the
names. -/
def Nearer (names : List String) (target x y : String) : Prop :=
  editDistance x target < editDistance y target ∨
    editDistance x target = editDistance y target ∧ names.idxOf x < names.idxOf y

/-- Good suggestions for a name that is not among some names. -/
structure Suggests (names : List String) (target : String) (suggestions : List String) :
    Prop where
  length_le : suggestions.length ≤ 3
  nodup : suggestions.Nodup
  close : ∀ x ∈ suggestions,
    x ∈ names ∧ (editDistance x target = 1 ∨ editDistance x target = 2)
  sorted : suggestions.Pairwise (Nearer names target)
  /-- A close name is left out only behind three others that come before it. -/
  best : ∀ y ∈ names, y ∉ suggestions → editDistance y target ≤ 2 →
    suggestions.length = 3 ∧ ∀ x ∈ suggestions, Nearer names target x y

section

variable {names : List String} {target x y : String}

theorem Nearer.ne (h : Nearer names target x y) : x ≠ y := by
  rintro rfl
  rcases h with h | ⟨-, h⟩ <;> exact lt_irrefl _ h

theorem eraseDups_of_nodup {l : List String} (h : l.Nodup) : l.eraseDups = l := by
  induction l with
  | nil => rfl
  | cons a l ih =>
    obtain ⟨ha, hl⟩ := List.nodup_cons.mp h
    have hrest : l.filter (fun b => !b == a) = l := by
      refine List.filter_eq_self.mpr fun b hb => ?_
      rw [Bool.not_eq_true', beq_eq_false_iff_ne]
      rintro rfl
      exact ha hb
    rw [List.eraseDups_cons, hrest, ih hl]

/-- The names at distance `1` to `limit`, the closest first. -/
def candidates (names : List String) (target : String) (limit : Nat) : List String :=
  (List.range limit).flatMap fun d => names.filter fun n => editDistance n target == d + 1

theorem near_eq_take (hnames : names.Nodup) (limit count : Nat) :
    near names target limit count = (candidates names target limit).take count := by
  rw [near, candidates, eraseDups_of_nodup hnames]

theorem mem_candidates {limit : Nat} :
    x ∈ candidates names target limit ↔
      x ∈ names ∧ 0 < editDistance x target ∧ editDistance x target ≤ limit := by
  simp only [candidates, List.mem_flatMap, List.mem_range, List.mem_filter, beq_iff_eq]
  constructor
  · rintro ⟨d, hd, hx, heq⟩
    exact ⟨hx, by omega, by omega⟩
  · rintro ⟨hx, hpos, hle⟩
    exact ⟨editDistance x target - 1, by omega, hx, by omega⟩

/-- **Candidates are sorted** by distance and then by place. -/
theorem pairwise_candidates (hnames : names.Nodup) (limit : Nat) :
    (candidates names target limit).Pairwise (Nearer names target) := by
  have hplaces : names.Pairwise fun x y => names.idxOf x < names.idxOf y := by
    have h := (firstOccurrences_distinctIds names).sorted
    rwa [distinctIds_of_nodup hnames] at h
  rw [candidates, List.pairwise_flatMap]
  constructor
  · intro d _
    refine (hplaces.filter _).imp_of_mem fun hx hy hlt => Or.inr ⟨?_, hlt⟩
    rw [eq_of_beq (List.mem_filter.mp hx).2, eq_of_beq (List.mem_filter.mp hy).2]
  · refine List.pairwise_lt_range.imp fun {d d'} hlt x hx y hy => Or.inl ?_
    rw [eq_of_beq (List.mem_filter.mp hx).2, eq_of_beq (List.mem_filter.mp hy).2]
    exact Nat.succ_lt_succ hlt

/-- What is cut off a sorted list comes after all that is kept, and then nothing more fits. -/
theorem of_mem_of_notMem_take {β : Type} {R : β → β → Prop} {l : List β} {count : Nat} {b : β}
    (hl : l.Pairwise R) (hb : b ∈ l) (hcut : b ∉ l.take count) :
    (l.take count).length = count ∧ ∀ a ∈ l.take count, R a b := by
  rw [← List.take_append_drop count l] at hl hb
  have hdrop : b ∈ l.drop count := (List.mem_append.mp hb).resolve_left hcut
  have hlength : 0 < l.length - count := by
    rw [← List.length_drop]
    exact List.length_pos_of_mem hdrop
  refine ⟨List.length_take_of_le (by omega), fun a ha => ?_⟩
  exact (List.pairwise_append.mp hl).2.2 a ha b hdrop

/-- **The names found near another one are good suggestions.** -/
theorem near_suggests (hnames : names.Nodup) (htarget : target ∉ names) :
    Suggests names target (near names target suggestionLimit suggestionCount) := by
  rw [near_eq_take hnames]
  have hsorted : (candidates names target suggestionLimit).Pairwise (Nearer names target) :=
    pairwise_candidates hnames suggestionLimit
  have hkept := hsorted.sublist (List.take_sublist suggestionCount _)
  refine ⟨List.length_take_le _ _, hkept.imp Nearer.ne, fun x hx => ?_, hkept,
    fun y hy hout hle => ?_⟩
  · obtain ⟨hmem, hpos, hle⟩ := mem_candidates.mp (List.mem_of_mem_take hx)
    rw [suggestionLimit] at hle
    exact ⟨hmem, by omega⟩
  · have hpos : 0 < editDistance y target := by
      refine Nat.pos_of_ne_zero fun hzero => htarget ?_
      have heq := (fewestEdits_editDistance y target).eq_zero_iff.mp hzero
      rwa [← String.toList_inj.mp heq]
    exact of_mem_of_notMem_take hsorted (mem_candidates.mpr ⟨hy, hpos, hle⟩) hout

end

/-! ## Failures -/

variable {α : Type}

/-- What a failure says of an unknown box is so: it is not among the names, and the suggestions are
good. -/
def Failure.Honest (names : List String) : Failure α → Prop
  | .unknownBox boxId suggestions => boxId ∉ names ∧ Suggests names boxId suggestions
  | _ => True

/-- Whatever failure comes of a reading is honest. -/
def FailsHonestly {β : Type} (names : List String) (x : Except (Failure α) β) : Prop :=
  ∀ f, x = .error f → f.Honest names

namespace FailsHonestly

variable {β γ : Type} {names : List String}

theorem ok (v : β) : FailsHonestly names (.ok v : Except (Failure α) β) := nofun

theorem error {f : Failure α} (h : f.Honest names) :
    FailsHonestly names (.error f : Except (Failure α) β) := by
  rintro _ ⟨⟩
  exact h

/-- Readings in a row fail honestly when each of them does. -/
theorem bind {x : Except (Failure α) β} {f : β → Except (Failure α) γ}
    (hx : FailsHonestly names x) (hf : ∀ v, FailsHonestly names (f v)) :
    FailsHonestly names (x >>= f) := by
  cases x with
  | ok v => exact hf v
  | error g => exact error (hx g rfl)

end FailsHonestly

theorem Param.check_honest {β : Type} (p : Param α β) (argument : Argument)
    (expected : Expectation) (names : List String) :
    FailsHonestly names (p.check argument expected) := by
  cases p with
  | valid v => exact .ok v
  | malformed raw => exact .error trivial

theorem findAnchor_honest (name : String) (boxId : Option String) (names : List String) :
    FailsHonestly names (findAnchor name boxId : Except (Failure α) Anchor) := by
  rw [findAnchor]
  cases Anchor.ofName? name with
  | some a => exact .ok a
  | none => exact .error trivial

variable [Scalar α]

theorem findBox_of_notMem {boxes : BoxMap α} {boxId : String} (h : boxId ∉ boxes.keys) :
    findBox boxes boxId =
      .error (.unknownBox boxId (near boxes.keys boxId suggestionLimit suggestionCount)) := by
  have hnone : boxes.get? boxId = none := by
    refine Option.eq_none_iff_forall_ne_some.mpr fun b hb => ?_
    exact h (IdMap.mem_keys_of_get? hb)
  rw [findBox, hnone]

theorem findBox_honest (boxes : BoxMap α) (boxId : String) :
    FailsHonestly boxes.keys (findBox boxes boxId) := by
  by_cases h : boxId ∈ boxes.keys
  · obtain ⟨b, hb⟩ := IdMap.mem_keys.mp h
    rw [findBox_eq_ok_iff.mpr hb]
    exact .ok b
  · rw [findBox_of_notMem h]
    exact .error ⟨h, near_suggests boxes.nodup_keys h⟩

theorem AnchorRef.find_honest (r : AnchorRef) (boxes : BoxMap α) :
    FailsHonestly boxes.keys (r.find boxes) :=
  (findBox_honest boxes r.boxId).bind fun _ => (findAnchor_honest r.anchor _ _).bind fun _ => .ok _

theorem finite_honest (argument : Argument) (value : Coordinate α) (names : List String) :
    FailsHonestly names (finite argument value) := by
  rw [finite]
  split
  · exact .ok value
  · exact .error trivial

theorem Target.resolve_honest (t : Target α) (boxes : BoxMap α) :
    FailsHonestly boxes.keys (t.resolve boxes) := by
  cases t with
  | point c => exact finite_honest .target c _
  | value v => exact finite_honest .target (Coordinate.splat v) _
  | anchor r => exact (r.find_honest boxes).bind fun _ => .ok _
  | malformed raw => exact .error trivial

theorem Offset.resolve_honest (o : Offset α) (argument : Argument) (names : List String) :
    FailsHonestly names (o.resolve argument) := by
  cases o with
  | vector c => exact finite_honest argument c names
  | uniform v => exact finite_honest argument (Coordinate.splat v) names
  | malformed raw => exact .error trivial

theorem planeGap_honest (gap : Option (Offset α)) (names : List String) :
    FailsHonestly names (planeGap gap) := by
  cases gap with
  | none => exact .ok _
  | some o => exact o.resolve_honest .gap names

theorem lineGap_honest (gap : Option (Param α α)) (names : List String) :
    FailsHonestly names (lineGap gap) := by
  cases gap with
  | none => exact .ok _
  | some p =>
    exact (p.check_honest .gap .number names).bind fun v =>
      (finite_honest .gap (Coordinate.splat v) names).bind fun _ => .ok _

namespace Operation

/-- **The checks of an operation fail honestly.** -/
theorem check_honest (op : Operation α) (boxes : BoxMap α) :
    FailsHonestly boxes.keys (op.check boxes) := by
  cases op with
  | moveTo source target gap =>
    refine (source.check_honest .source .anchorRef _).bind fun r => ?_
    refine (r.find_honest boxes).bind fun _ => ?_
    exact (target.resolve_honest boxes).bind fun _ => (planeGap_honest gap _).bind fun _ => .ok _
  | moveBy source displacement gap =>
    refine (source.check_honest .source .boxRef _).bind fun r => ?_
    refine (findBox_honest boxes r.boxId).bind fun _ => ?_
    exact (displacement.resolve_honest .displacement _).bind fun _ =>
      (planeGap_honest gap _).bind fun _ => .ok _
  | align axis source target gap =>
    refine (source.check_honest .source .anchorRef _).bind fun r => ?_
    refine (r.find_honest boxes).bind fun _ => ?_
    exact (target.resolve_honest boxes).bind fun _ => (lineGap_honest gap _).bind fun _ => .ok _
  | alignAll axis target anchor gap =>
    refine (anchor.check_honest .anchor .anchorName _).bind fun name => ?_
    refine (findAnchor_honest name none _).bind fun _ => ?_
    exact (target.resolve_honest boxes).bind fun _ => (lineGap_honest gap _).bind fun _ => .ok _
  | stack axis gap => exact (lineGap_honest gap _).bind fun _ => .ok _

/-- **Every failure in a list of operations is honest**: the ids are the same all along. -/
theorem honest_of_mem_runAll {names : List String} {ops : List (Operation α)} :
    ∀ {boxes : BoxMap α}, boxes.keys = names → ∀ e ∈ (runAll ops boxes).2,
      e.1 ∈ ops ∧ e.2.Honest names := by
  induction ops with
  | nil => exact fun _ e he => absurd he List.not_mem_nil
  | cons op ops ih =>
    intro boxes hkeys e he
    cases hrun : op.run boxes with
    | ok moved =>
      obtain ⟨m, -, rfl⟩ := run_eq_ok_iff.mp hrun
      rw [runAll_cons_of_ok hrun] at he
      exact (ih ((m.keys_apply boxes).trans hkeys) e he).imp_left (List.mem_cons_of_mem op)
    | error f =>
      rw [runAll_cons_of_error hrun] at he
      rcases List.mem_cons.mp he with rfl | he
      · have hhonest := op.check_honest boxes f (run_eq_error_iff.mp hrun)
        rw [hkeys] at hhonest
        exact ⟨List.mem_cons_self, hhonest⟩
      · exact (ih hkeys e he).imp_left (List.mem_cons_of_mem op)

end Operation

/-! ## Reports -/

/-- The words about the first suggestion, if there is one. -/
def hint : List String → String
  | [] => ""
  | first :: _ => s!" (did you mean '{first}'?)"

/-- A report records an unknown id together with its suggestions, and its message ends with the
hint. -/
structure Diagnostic.RecordsUnknown (report : Diagnostic α) (scope : Scope) (verb boxId : String)
    (suggestions : List String) : Prop where
  named : report.details.bind (·.field? "boxId") = some (.string boxId)
  suggested : report.details.bind (·.field? "suggestions") =
    some (.list (suggestions.map .string))
  worded : report.message = s!"{verb}: unknown box '{boxId}'{scope.text}" ++ hint suggestions

theorem Value.canonicalItems_map_string (l : List String) :
    Value.canonicalItems (l.map Value.string : List (Value α)) = l.map Value.string := by
  induction l with
  | nil => rfl
  | cons s l ih => rw [List.map_cons, canonicalItems, ih, canonical]

theorem Issue.recordsUnknown (scope : Scope) (verb boxId : String) (suggestions : List String) :
    (Issue.operation scope verb (.unknownBox boxId suggestions) :
      Issue α).diagnostic.RecordsUnknown scope verb boxId suggestions := by
  have hfield : ∀ key, (Issue.operation scope verb (.unknownBox boxId suggestions) :
      Issue α).diagnostic.details.bind (·.field? key) =
        (Value.canonicalFields (Issue.operation scope verb
          (.unknownBox boxId suggestions) : Issue α).details).lookup key := fun _ => rfl
  refine ⟨?_, ?_, ?_⟩
  · rw [hfield, Value.lookup_canonicalFields]
    simp [Issue.details, Failure.details, Value.lookup_cons_eq, Value.canonical]
  · rw [hfield, Value.lookup_canonicalFields]
    simp [Issue.details, Failure.details, Value.lookup_cons_eq, Value.canonical,
      Value.canonicalItems_map_string]
  · cases suggestions <;> rfl

/-- **Did you mean?**  Whatever box an operation looks up that is not there, it fails with good
suggestions for it, and they are recorded as they are.  And a report about an unknown id, in any run
of operations, records good suggestions for an id that is not among those of the boxes. -/
theorem unknownBox_suggestions (boxes : BoxMap α) (scope : Scope) :
    (∀ boxId ∉ boxes.keys, ∃ suggestions, Suggests boxes.keys boxId suggestions ∧
      findBox boxes boxId = .error (.unknownBox boxId suggestions) ∧
      ∀ verb, (Issue.operation scope verb (.unknownBox boxId suggestions) :
        Issue α).diagnostic.RecordsUnknown scope verb boxId suggestions) ∧
    ∀ ops : List (Operation α), ∀ report ∈ (Operation.evaluateAll ops boxes scope).2,
      report.code = .unknownNodeId →
        ∃ op ∈ ops, ∃ boxId ∉ boxes.keys, ∃ suggestions, Suggests boxes.keys boxId suggestions ∧
          report.RecordsUnknown scope op.verb boxId suggestions := by
  constructor
  · intro boxId h
    exact ⟨_, near_suggests boxes.nodup_keys h, findBox_of_notMem h,
      fun verb => Issue.recordsUnknown scope verb boxId _⟩
  · intro ops report hreport hcode
    obtain ⟨issue, hissue, rfl⟩ := List.mem_map.mp hreport
    obtain ⟨⟨op, failure⟩, he, rfl⟩ := List.mem_map.mp hissue
    obtain ⟨hop, hhonest⟩ := Operation.honest_of_mem_runAll rfl _ he
    cases failure with
    | unknownBox boxId suggestions =>
      exact ⟨op, hop, boxId, hhonest.1, suggestions, hhonest.2,
        Issue.recordsUnknown scope op.verb boxId suggestions⟩
    | malformed | notFinite | unknownAnchor => exact nomatch hcode

/-- Boxes with names that are easily mistaken for one another. -/
def servers : BoxMap Rat :=
  .ofList (["serves", "serve", "client", "sever", "server"].map fun id => (id, .new ⟨0, 0⟩ ⟨1, 1⟩))

/-- Two names are one letter away and two are two; of these the earlier one is suggested. -/
theorem servr_suggestions :
    "servr" ∉ servers.keys ∧
      findBox servers "servr" = .error (.unknownBox "servr" ["serve", "server", "serves"]) ∧
      Suggests servers.keys "servr" ["serve", "server", "serves"] := by
  have hunknown : "servr" ∉ servers.keys := by decide
  obtain ⟨suggestions, hsuggests, hfind, -⟩ :=
    (unknownBox_suggestions servers ⟨.xs, none⟩).1 "servr" hunknown
  obtain rfl : suggestions = ["serve", "server", "serves"] := by
    have hnear := (findBox_of_notMem hunknown).symm.trans hfind
    obtain rfl := (Failure.unknownBox.inj (Except.error.inj hnear)).2
    decide
  exact ⟨hunknown, hfind, hsuggests⟩

end GridLayout
