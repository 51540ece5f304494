import GridLayout.Proofs.Arguments
import GridLayout.Proofs.Rigid

/-!
# Operations that move every box on its own

An operation reads boxes by their ids.  Unless it is a stack, it also moves every box without
regard to the others and to their order.  So the order in which boxes are listed makes no difference
to it: from two maps that find the same boxes, it leads to two maps that find the same boxes.

* `IdMap.SameEntries`: two maps find the same under every id; `IdMap.SameEntries.of_perm` is where
  such maps come from.
* `Operation.leads_of_check`: the motions that an operation may lead to.
* `Motion.Boxwise`: a motion moves every box on its own.  `Operation.boxwise_of_check` says that
  this is what the checks of an operation lead to, unless it is a stack.
* `Operation.check_concur`: the checks lead to the same motion in both maps, or fail in both.
  The failures need not be the same, since suggestions come in the order of the ids.
* `Operation.sameEntries_runAll`: a list of operations, failing ones included.
-/

namespace GridLayout

/-! ## Maps that find the same -/

namespace IdMap

variable {β γ : Type}

/-- Two maps find the same under every id, in whatever order they list it. -/
def SameEntries (m n : IdMap β) : Prop := ∀ id, m.get? id = n.get? id

variable {m n : IdMap β}

/-- **Maps with the same entries in another order find the same.** -/
theorem SameEntries.of_perm (h : m.entries.Perm n.entries) : m.SameEntries n := by
  intro id
  refine Option.ext fun v => ?_
  rw [get?_eq_some_iff, get?_eq_some_iff]
  exact h.mem_iff

theorem SameEntries.mapEntries (h : m.SameEntries n) (f : String → β → γ) :
    (m.mapEntries f).SameEntries (n.mapEntries f) := by
  intro id
  rw [get?_mapEntries, get?_mapEntries, h id]

theorem SameEntries.mem_values (h : m.SameEntries n) {v : β} : v ∈ m.values ↔ v ∈ n.values := by
  rw [IdMap.mem_values, IdMap.mem_values]
  exact exists_congr fun id => by rw [h id]

end IdMap

variable {α : Type} [Scalar α]

/-! ## Motions -/

/-- A motion moves every box on its own, without regard to the others and to their order. -/
def Motion.Boxwise (m : Motion α) : Prop :=
  ∃ f : String → GridBox α → GridBox α, ∀ boxes, m.apply boxes = boxes.mapEntries f

theorem Motion.boxwise_shift (boxId : String) (delta : Coordinate α) :
    (Motion.shift boxId delta).Boxwise :=
  ⟨fun id b => if id = boxId then b.translate delta else b,
    fun boxes => boxes.modify_eq_mapEntries boxId _⟩

theorem Motion.boxwise_level (axis : Axis) (anchor : Anchor) (line : α) :
    (Motion.level axis anchor line).Boxwise :=
  ⟨fun _ b => b.level axis anchor line, fun _ => rfl⟩

/-! ## Outcomes of checks -/

section

variable {boxes boxes' : BoxMap α} (h : boxes.SameEntries boxes')
include h

theorem findBox_concur (boxId : String) :
    Concur Eq (findBox boxes boxId) (findBox boxes' boxId) := by
  rw [findBox, findBox, h boxId]
  cases boxes'.get? boxId with
  | none => exact .error _ _
  | some b => exact .ok rfl

theorem AnchorRef.find_concur (r : AnchorRef) :
    Concur Eq (r.find boxes) (r.find boxes') :=
  (findBox_concur h r.boxId).bind_same fun _ => Concur.refl _

theorem Target.resolve_concur (t : Target α) :
    Concur Eq (t.resolve boxes) (t.resolve boxes') := by
  cases t with
  | anchor r => exact (r.find_concur h).bind_same fun _ => Concur.refl _
  | point | value | malformed => exact Concur.refl _

/-- **The checks of an operation come to the same** in maps that find the same boxes. -/
theorem Operation.check_concur (op : Operation α) :
    Concur Eq (op.check boxes) (op.check boxes') := by
  cases op with
  | moveTo source target gap =>
    refine (Concur.refl _).bind_same fun r => ?_
    refine (r.find_concur h).bind_same fun _ => ?_
    exact (target.resolve_concur h).bind_same fun _ => Concur.refl _
  | moveBy source displacement gap =>
    refine (Concur.refl _).bind_same fun r => ?_
    exact (findBox_concur h r.boxId).bind_same fun _ => Concur.refl _
  | align axis source target gap =>
    refine (Concur.refl _).bind_same fun r => ?_
    refine (r.find_concur h).bind_same fun _ => ?_
    exact (target.resolve_concur h).bind_same fun _ => Concur.refl _
  | alignAll axis target anchor gap =>
    refine (Concur.refl _).bind_same fun name => ?_
    refine (Concur.refl _).bind_same fun _ => ?_
    exact (target.resolve_concur h).bind_same fun _ => Concur.refl _
  | stack axis gap => exact Concur.refl _

end

/-! ## Operations -/

namespace Operation

omit [Scalar α] in
/-- The boxes follow one another, whether or not the gap between them can be used. -/
def isStack : Operation α → Bool
  | .stack .. => true
  | _ => false

omit [Scalar α] in
/-- The box that an operation moves, when it moves one box and names it. -/
def movedBox? : Operation α → Option String
  | .moveTo (.valid r) _ _ => some r.boxId
  | .moveBy (.valid r) _ _ => some r.boxId
  | .align _ (.valid r) _ _ => some r.boxId
  | _ => none

/-- What an operation may lead to: a displacement of the box that it names, a line that all boxes
are put on, or a stack of all boxes. -/
inductive Leads : Operation α → Motion α → Prop
  | shift {op : Operation α} {boxId : String} (h : op.movedBox? = some boxId)
      (delta : Coordinate α) : Leads op (.shift boxId delta)
  | level {axis : Axis} {target : Target α} {name : Param α String} {gap : Option (Param α α)}
      (anchor : Anchor) (line : α) :
      Leads (.alignAll axis target name gap) (.level axis anchor line)
  | stack {axis : Axis} {gap : Option (Param α α)} (amount : α) :
      Leads (.stack axis gap) (.stack axis amount)

/-- **What the checks of an operation lead to**, whatever the boxes are. -/
theorem leads_of_check {op : Operation α} {boxes : BoxMap α} {m : Motion α}
    (h : op.check boxes = .ok m) : op.Leads m := by
  cases op with
  | moveTo source target gap =>
    obtain ⟨r, hsource, h⟩ := bind_eq_ok_iff.mp h
    obtain ⟨found, -, h⟩ := bind_eq_ok_iff.mp h
    obtain ⟨p, -, h⟩ := bind_eq_ok_iff.mp h
    obtain ⟨g, -, rfl⟩ := bind_pure_eq_ok_iff.mp h
    exact .shift (by rw [Param.check_eq_ok_iff.mp hsource, movedBox?]) _
  | moveBy source displacement gap =>
    obtain ⟨r, hsource, h⟩ := bind_eq_ok_iff.mp h
    obtain ⟨b, -, h⟩ := bind_eq_ok_iff.mp h
    obtain ⟨d, -, h⟩ := bind_eq_ok_iff.mp h
    obtain ⟨g, -, rfl⟩ := bind_pure_eq_ok_iff.mp h
    exact .shift (by rw [Param.check_eq_ok_iff.mp hsource, movedBox?]) _
  | align axis source target gap =>
    obtain ⟨r, hsource, h⟩ := bind_eq_ok_iff.mp h
    obtain ⟨found, -, h⟩ := bind_eq_ok_iff.mp h
    obtain ⟨p, -, h⟩ := bind_eq_ok_iff.mp h
    obtain ⟨g, -, rfl⟩ := bind_pure_eq_ok_iff.mp h
    exact .shift (by rw [Param.check_eq_ok_iff.mp hsource, movedBox?]) _
  | alignAll axis target anchor gap =>
    obtain ⟨name, -, h⟩ := bind_eq_ok_iff.mp h
    obtain ⟨a, -, h⟩ := bind_eq_ok_iff.mp h
    obtain ⟨p, -, h⟩ := bind_eq_ok_iff.mp h
    obtain ⟨g, -, rfl⟩ := bind_pure_eq_ok_iff.mp h
    exact .level a _
  | stack axis gap =>
    obtain ⟨g, -, rfl⟩ := bind_pure_eq_ok_iff.mp h
    exact .stack g

/-- **An operation that is no stack moves every box on its own.** -/
theorem boxwise_of_check {op : Operation α} (hop : op.isStack = false) {boxes : BoxMap α}
    {m : Motion α} (h : op.check boxes = .ok m) : m.Boxwise := by
  cases leads_of_check h with
  | shift _ delta => exact Motion.boxwise_shift _ delta
  | level anchor line => exact Motion.boxwise_level _ anchor line
  | stack => exact nomatch hop

/-- **Operations that are no stacks keep maps the same.**  An operation that fails in one map fails
in the other and moves nothing in either; one that succeeds moves every box alike. -/
theorem sameEntries_runAll {ops : List (Operation α)} (hops : ∀ op ∈ ops, op.isStack = false) :
    ∀ {boxes boxes' : BoxMap α}, boxes.SameEntries boxes' →
      (runAll ops boxes).1.SameEntries (runAll ops boxes').1 := by
  induction ops with
  | nil => exact fun h => h
  | cons op ops ih =>
    intro boxes boxes' h
    rw [List.forall_mem_cons] at hops
    have hsame : Concur Eq (op.check boxes) (op.check boxes') := op.check_concur h
    cases hcheck : op.check boxes with
    | ok m =>
      have hrun : op.run boxes = .ok (m.apply boxes) := run_eq_ok_iff.mpr ⟨m, hcheck, rfl⟩
      have hrun' : op.run boxes' = .ok (m.apply boxes') :=
        run_eq_ok_iff.mpr ⟨m, hsame.eq_ok hcheck, rfl⟩
      obtain ⟨f, hf⟩ := boxwise_of_check hops.1 hcheck
      have hmoved : (m.apply boxes).SameEntries (m.apply boxes') := by
        rw [hf, hf]
        exact h.mapEntries f
      rw [runAll_cons_of_ok hrun, runAll_cons_of_ok hrun']
      exact ih hops.2 hmoved
    | error failure =>
      obtain ⟨failure', hcheck'⟩ := hsame.exists_error hcheck
      rw [runAll_cons_of_error (run_eq_error_iff.mpr hcheck),
        runAll_cons_of_error (run_eq_error_iff.mpr hcheck')]
      exact ih hops.2 h

end Operation

end GridLayout
