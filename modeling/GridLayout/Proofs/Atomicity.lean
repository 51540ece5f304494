import GridLayout.Proofs.Reported

/-!
# An operation is carried out as a whole or not at all

An operation reads its arguments one after another and asks something of each.  `Requirement` is one
such question with the code of the report that a wrong answer leads to, and
`Operation.requirements` lists the questions of an operation in their order.

The list is written down from what the arguments have to be, without regard to how they are read.
`Answers` compares the two: a reading succeeds when every requirement holds, and fails with
the code of the first that does not.

* `Answers.bind`: readings in a row answer to their requirements in a row.
* `Operation.check_answers`: the checks of an operation answer to its requirements.
* `Operation.evaluateAll_singleton`: an operation moves boxes and reports nothing, or moves nothing
  and reports one error.

All of it holds over any numbers, finite or not.
-/

namespace GridLayout

variable {α : Type}

/-! ## Requirements -/

/-- Something that an operation asks of its arguments, and the code under which it is reported when
it is not the case. -/
structure Requirement where
  holds : Bool
  code : IssueCode
  deriving DecidableEq, Repr

namespace Requirement

/-- An argument is of the right shape, and its numbers are finite. -/
def usable (holds : Bool) : Requirement := ⟨holds, .invalidTransformationParams⟩

/-- A box is there. -/
def knownBox [Scalar α] (boxes : BoxMap α) (boxId : String) : Requirement :=
  ⟨decide (boxId ∈ boxes.keys), .unknownNodeId⟩

/-- A name is that of an anchor. -/
def knownAnchor (name : String) : Requirement :=
  ⟨decide (name ∈ Anchor.all.map Anchor.name), .unknownAnchor⟩

/-- The first requirement that does not hold. -/
def firstFailing? (requirements : List Requirement) : Option Requirement :=
  requirements.find? fun r => !r.holds

end Requirement

/-- What is asked of an argument: that it has the right shape, and then more about its value. -/
def Param.requirements {β : Type} (p : Param α β) (more : β → List Requirement) :
    List Requirement :=
  match p with
  | .valid v => .usable true :: more v
  | .malformed _ => [.usable false]

section

variable [Scalar α]

/-- What is asked of a reference: that its box is there, and that its anchor is one. -/
def AnchorRef.requirements (r : AnchorRef) (boxes : BoxMap α) : List Requirement :=
  [.knownBox boxes r.boxId, .knownAnchor r.anchor]

/-- What is asked of a target. -/
def Target.requirements (t : Target α) (boxes : BoxMap α) : List Requirement :=
  match t with
  | .point c => [.usable c.isFinite]
  | .value v => [.usable (Scalar.isFinite v)]
  | .anchor r => r.requirements boxes
  | .malformed _ => [.usable false]

/-- What is asked of a displacement. -/
def Offset.requirements : Offset α → List Requirement
  | .vector c => [.usable c.isFinite]
  | .uniform v => [.usable (Scalar.isFinite v)]
  | .malformed _ => [.usable false]

/-- What is asked of a gap in the plane: nothing when there is none. -/
def planeGapRequirements : Option (Offset α) → List Requirement
  | none => []
  | some o => o.requirements

/-- What is asked of a gap along one axis: nothing when there is none. -/
def lineGapRequirements : Option (Param α α) → List Requirement
  | none => []
  | some p => p.requirements fun v => [.usable (Scalar.isFinite v)]

/-- What an operation asks of its arguments, in the order in which it reads them. -/
def Operation.requirements (op : Operation α) (boxes : BoxMap α) : List Requirement :=
  match op with
  | .moveTo source target gap =>
    (source.requirements fun r => r.requirements boxes) ++ target.requirements boxes ++
      planeGapRequirements gap
  | .moveBy source displacement gap =>
    (source.requirements fun r => [.knownBox boxes r.boxId]) ++ displacement.requirements ++
      planeGapRequirements gap
  | .align _ source target gap =>
    (source.requirements fun r => r.requirements boxes) ++ target.requirements boxes ++
      lineGapRequirements gap
  | .alignAll _ target anchor gap =>
    (anchor.requirements fun name => [.knownAnchor name]) ++ target.requirements boxes ++
      lineGapRequirements gap
  | .stack _ gap => lineGapRequirements gap

end

/-! ## Readings -/

/-- A reading answers to some requirements: it succeeds when all of them hold, and otherwise fails
with the code of the first that does not. -/
def Answers {β : Type} (x : Except (Failure α) β) (requirements : List Requirement) : Prop :=
  match Requirement.firstFailing? requirements with
  | none => ∃ v, x = .ok v
  | some r => ∃ f, x = .error f ∧ f.code = r.code

namespace Answers

variable {β γ : Type} {x : Except (Failure α) β} {requirements : List Requirement}

/-- A reading that asks nothing succeeds. -/
theorem ok (v : β) : Answers (.ok v : Except (Failure α) β) [] := ⟨v, rfl⟩

/-- A failure answers to a requirement of its code that does not hold, whatever is asked after
it. -/
theorem error {f : Failure α} {r : Requirement} (hfalse : r.holds = false) (hcode : f.code = r.code)
    (later : List Requirement) : Answers (.error f : Except (Failure α) β) (r :: later) := by
  have hfirst : Requirement.firstFailing? (r :: later) = some r := by
    simp [Requirement.firstFailing?, hfalse]
  rw [Answers, hfirst]
  exact ⟨f, rfl, hcode⟩

/-- A requirement that holds makes no difference. -/
theorem cons {r : Requirement} (htrue : r.holds = true) (h : Answers x requirements) :
    Answers x (r :: requirements) := by
  have hfirst : Requirement.firstFailing? (r :: requirements) =
      Requirement.firstFailing? requirements := by
    simp [Requirement.firstFailing?, htrue]
  rw [Answers, hfirst]
  exact h

/-- **Readings in a row answer to their requirements in a row.** -/
theorem bind {f : β → Except (Failure α) γ} {later : List Requirement} (hx : Answers x requirements)
    (hf : ∀ v, Answers (f v) later) : Answers (x >>= f) (requirements ++ later) := by
  have hfirst : Requirement.firstFailing? (requirements ++ later) =
      (Requirement.firstFailing? requirements).or (Requirement.firstFailing? later) :=
    List.find?_append
  rw [Answers, hfirst]
  rw [Answers] at hx
  cases h : Requirement.firstFailing? requirements with
  | none =>
    rw [h] at hx
    obtain ⟨v, rfl⟩ := hx
    rw [Option.none_or]
    exact hf v
  | some r =>
    rw [h] at hx
    obtain ⟨failure, rfl, hcode⟩ := hx
    rw [Option.some_or]
    exact ⟨failure, rfl, hcode⟩

/-- What is made of a value asks nothing more. -/
theorem map {f : β → γ} (hx : Answers x requirements) :
    Answers (x >>= fun v => pure (f v)) requirements := by
  have h := hx.bind fun v => ok (f v)
  rwa [List.append_nil] at h

end Answers

/-! ## Arguments -/

/-- An argument of the right shape is read as its value. -/
theorem Param.check_answers {β γ : Type} (p : Param α β) (argument : Argument)
    (expected : Expectation) {f : β → Except (Failure α) γ} {more : β → List Requirement}
    {later : List Requirement} (hf : ∀ v, Answers (f v) (more v ++ later)) :
    Answers (p.check argument expected >>= f) (p.requirements more ++ later) := by
  cases p with
  | valid v => exact Answers.cons rfl (hf v)
  | malformed raw => exact Answers.error rfl rfl later

/-- A name has an anchor when it is one of their names. -/
theorem Anchor.isSome_ofName? (name : String) :
    (Anchor.ofName? name).isSome = decide (name ∈ Anchor.all.map Anchor.name) := by
  rw [Anchor.ofName?, Bool.eq_iff_iff, List.find?_isSome, decide_eq_true_iff, List.mem_map]
  simp only [beq_iff_eq]

theorem findAnchor_answers (name : String) (boxId : Option String) :
    Answers (findAnchor name boxId : Except (Failure α) Anchor) [.knownAnchor name] := by
  have hsome := Anchor.isSome_ofName? name
  rw [findAnchor]
  cases h : Anchor.ofName? name with
  | none =>
    rw [h, Option.isSome_none] at hsome
    exact Answers.error hsome.symm rfl []
  | some a =>
    rw [h, Option.isSome_some] at hsome
    exact Answers.cons hsome.symm (Answers.ok a)

variable [Scalar α]

theorem findBox_answers (boxes : BoxMap α) (boxId : String) :
    Answers (findBox boxes boxId) [.knownBox boxes boxId] := by
  rw [findBox]
  cases h : boxes.get? boxId with
  | none =>
    have hnot : boxId ∉ boxes.keys := by
      intro hmem
      obtain ⟨b, hb⟩ := IdMap.mem_keys.mp hmem
      simp [h] at hb
    exact Answers.error (decide_eq_false hnot) rfl []
  | some b => exact Answers.cons (decide_eq_true (IdMap.mem_keys_of_get? h)) (Answers.ok b)

theorem AnchorRef.find_answers (r : AnchorRef) (boxes : BoxMap α) :
    Answers (r.find boxes) (r.requirements boxes) :=
  (findBox_answers boxes r.boxId).bind fun _ => (findAnchor_answers r.anchor _).map

theorem finite_answers (argument : Argument) (value : Coordinate α) :
    Answers (finite argument value) [.usable value.isFinite] := by
  rw [finite]
  cases h : value.isFinite with
  | true => exact Answers.cons rfl (Answers.ok value)
  | false => exact Answers.error rfl rfl []

/-- One number stands for both components, so it is finite when they are. -/
theorem Coordinate.isFinite_splat (v : α) : (Coordinate.splat v).isFinite = Scalar.isFinite v :=
  Bool.and_self _

theorem Target.resolve_answers (t : Target α) (boxes : BoxMap α) :
    Answers (t.resolve boxes) (t.requirements boxes) := by
  cases t with
  | point c => exact finite_answers .target c
  | value v =>
    have h := finite_answers .target (Coordinate.splat v)
    rwa [Coordinate.isFinite_splat] at h
  | anchor r => exact (r.find_answers boxes).map
  | malformed raw => exact Answers.error rfl rfl []

theorem Offset.resolve_answers (o : Offset α) (argument : Argument) :
    Answers (o.resolve argument) o.requirements := by
  cases o with
  | vector c => exact finite_answers argument c
  | uniform v =>
    have h := finite_answers argument (Coordinate.splat v)
    rwa [Coordinate.isFinite_splat] at h
  | malformed raw => exact Answers.error rfl rfl []

theorem planeGap_answers (gap : Option (Offset α)) :
    Answers (planeGap gap) (planeGapRequirements gap) := by
  cases gap with
  | none => exact Answers.ok _
  | some o => exact o.resolve_answers .gap

theorem lineGap_answers (gap : Option (Param α α)) :
    Answers (lineGap gap) (lineGapRequirements gap) := by
  cases gap with
  | none => exact Answers.ok _
  | some p =>
    have hnumber : ∀ v : α, Answers (finite .gap (Coordinate.splat v) >>= fun c => pure c.x)
        ([.usable (Scalar.isFinite v)] ++ []) := by
      intro v
      have hv := finite_answers .gap (Coordinate.splat v)
      rw [Coordinate.isFinite_splat] at hv
      exact hv.map
    have h := p.check_answers .gap .number hnumber
    rwa [List.append_nil] at h

/-! ## Operations -/

namespace Operation

/-- **The checks of an operation answer to its requirements**: they lead to a motion when all of
them hold, and fail with the code of the first that does not. -/
theorem check_answers (op : Operation α) (boxes : BoxMap α) :
    Answers (op.check boxes) (op.requirements boxes) := by
  cases op with
  | moveTo source target gap =>
    rw [requirements, List.append_assoc]
    refine source.check_answers .source .anchorRef fun r => ?_
    refine (r.find_answers boxes).bind fun _ => ?_
    exact (target.resolve_answers boxes).bind fun _ => (planeGap_answers gap).map
  | moveBy source displacement gap =>
    rw [requirements, List.append_assoc]
    refine source.check_answers .source .boxRef fun r => ?_
    refine (findBox_answers boxes r.boxId).bind fun _ => ?_
    exact (displacement.resolve_answers .displacement).bind fun _ => (planeGap_answers gap).map
  | align axis source target gap =>
    rw [requirements, List.append_assoc]
    refine source.check_answers .source .anchorRef fun r => ?_
    refine (r.find_answers boxes).bind fun _ => ?_
    exact (target.resolve_answers boxes).bind fun _ => (lineGap_answers gap).map
  | alignAll axis target anchor gap =>
    rw [requirements, List.append_assoc]
    refine anchor.check_answers .anchor .anchorName fun name => ?_
    refine (findAnchor_answers name none).bind fun _ => ?_
    exact (target.resolve_answers boxes).bind fun _ => (lineGap_answers gap).map
  | stack axis gap => exact (lineGap_answers gap).map

/-- Operations carried out in order, with what they report. -/
def evaluateAll (ops : List (Operation α)) (boxes : BoxMap α) (scope : Scope) :
    BoxMap α × List (Diagnostic α) :=
  ((runAll ops boxes).1, (operationIssues scope (runAll ops boxes).2).map Issue.diagnostic)

/-- **An operation is all or nothing.**  When everything that it asks of its arguments is the case,
it reports nothing and moves boxes as its checks say.  Otherwise it leaves every box where it was
and reports one error, under the code of the first thing that is not the case. -/
theorem evaluateAll_singleton (op : Operation α) (boxes : BoxMap α) (scope : Scope) :
    match Requirement.firstFailing? (op.requirements boxes) with
    | none => ∃ m, op.check boxes = .ok m ∧ evaluateAll [op] boxes scope = (m.apply boxes, [])
    | some r => ∃ d, evaluateAll [op] boxes scope = (boxes, [d]) ∧ d.severity = .error ∧
        d.origin = .transformation ∧ d.code = r.code := by
  have hcheck := op.check_answers boxes
  rw [Answers] at hcheck
  cases hfirst : Requirement.firstFailing? (op.requirements boxes) with
  | none =>
    rw [hfirst] at hcheck
    obtain ⟨m, hm⟩ := hcheck
    have hrun : op.run boxes = .ok (m.apply boxes) := run_eq_ok_iff.mpr ⟨m, hm, rfl⟩
    refine ⟨m, hm, ?_⟩
    rw [evaluateAll, runAll_singleton_of_ok hrun]
    rfl
  | some r =>
    rw [hfirst] at hcheck
    obtain ⟨f, hf, hcode⟩ := hcheck
    have hrun : op.run boxes = .error f := by rw [run, hf]; rfl
    refine ⟨(Issue.operation scope op.verb f).diagnostic, ?_, rfl, rfl, hcode⟩
    rw [evaluateAll, runAll_cons_of_error hrun]
    rfl

end Operation

end GridLayout
