import GridLayout.Proofs.Soft.Records

/-!
# Operations that differ in one argument

Operations are read from a value that has been taken as it is, and reading fails when the frame
around the arguments is wrong.  The frame is the verb, the shape of the arguments, their number and
their keys.  It does not see the arguments, so another argument in the place of one leads to an
operation that is the same but for that argument, or to none again.

`Operation.DifferIn`, `Operation.ListsDifferIn` and `Schedule.DifferAt` say of values where they
differ.  `Operation.SameBut`, `Operation.ListSameBut` and `Schedule.SameBut` say the same of what
has been read.

* `Operation.arguments?_rel`, `Operation.build?_rel`: the two steps of reading an operation.
* `Operation.listOfValue?_rel`, `Bps.ofFields?_rel`: lists of operations, alone and by breakpoint.
* `Schedule.ofValue?_rel`: the frame of a schedule does not see the arguments.
-/

namespace GridLayout

variable {α : Type}

/-! ## Where values differ -/

/-- An argument of an operation in a schedule. -/
structure ArgumentPlace where
  /-- The breakpoint whose operations are meant, if the schedule chooses by breakpoint. -/
  breakpoint : Option Breakpoint
  /-- The place of the operation in its list. -/
  index : Nat
  /-- The name of the argument. -/
  argument : String

/-- Two values stand for an operation, the same but for the argument of a name. -/
inductive Operation.DifferIn (argument : String) : Value α → Value α → Prop
  | intro (verb : String) {args args' : Value α}
    (h : InRecord (parameters verb) argument (fun _ _ => True) args args') :
    DifferIn argument (.object [(verb, args)]) (.object [(verb, args')])

/-- Two values list operations, the same but for an argument of the one in a place. -/
inductive Operation.ListsDifferIn (index : Nat) (argument : String) : Value α → Value α → Prop
  | intro {vs : List (Value α)} {v w : Value α} (hv : vs[index]? = some v)
    (h : DifferIn argument v w) : ListsDifferIn index argument (.list vs) (.list (vs.set index w))

/-- Two values stand for schedules, the same but for one argument. -/
inductive Schedule.DifferAt : ArgumentPlace → Value α → Value α → Prop
  | uniform {index : Nat} {argument : String} {v w : Value α}
    (h : Operation.ListsDifferIn index argument v w) : DifferAt ⟨none, index, argument⟩ v w
  | perBreakpoint {bp : Breakpoint} {index : Nat} {argument : String}
    {es es' : List (String × Value α)}
    (h : ButOne (OnField bp.name (Operation.ListsDifferIn index argument)) es es') :
    DifferAt ⟨some bp, index, argument⟩ (.object es) (.object es')

/-! ## Where operations differ -/

/-- Two operations are the same but for the argument of a name. -/
inductive Operation.SameBut (argument : String) : Operation α → Operation α → Prop
  | moveTo {r r' : Param α AnchorRef} {t t' : Target α} {g g' : Option (Offset α)}
    (hfrom : argument ≠ "from" → r = r') (hto : argument ≠ "to" → t = t')
    (hgap : argument ≠ "gap" → g = g') : SameBut argument (.moveTo r t g) (.moveTo r' t' g')
  | moveBy {r r' : Param α BoxRef} {d d' : Offset α} {g g' : Option (Offset α)}
    (hfrom : argument ≠ "from" → r = r') (hby : argument ≠ "by" → d = d')
    (hgap : argument ≠ "gap" → g = g') : SameBut argument (.moveBy r d g) (.moveBy r' d' g')
  | align (axis : Axis) {r r' : Param α AnchorRef} {t t' : Target α} {g g' : Option (Param α α)}
    (hfrom : argument ≠ "from" → r = r') (hto : argument ≠ "to" → t = t')
    (hgap : argument ≠ "gap" → g = g') :
    SameBut argument (.align axis r t g) (.align axis r' t' g')
  | alignAll (axis : Axis) {t t' : Target α} {a a' : Param α String} {g g' : Option (Param α α)}
    (hto : argument ≠ "to" → t = t') (hanchor : argument ≠ "anchor" → a = a')
    (hgap : argument ≠ "gap" → g = g') :
    SameBut argument (.alignAll axis t a g) (.alignAll axis t' a' g')
  | stack (axis : Axis) {g g' : Option (Param α α)} (hgap : argument ≠ "gap" → g = g') :
    SameBut argument (.stack axis g) (.stack axis g')

/-- Two lists of operations are the same but for an argument of the one in a place. -/
def Operation.ListSameBut (index : Nat) (argument : String) (ops ops' : List (Operation α)) :
    Prop :=
  (∀ i ≠ index, ops[i]? = ops'[i]?) ∧ Option.Rel (SameBut argument) ops[index]? ops'[index]?

/-- Two records of values are the same but for the value of one breakpoint. -/
def Bps.SameBut {β : Type} (bp : Breakpoint) (S : β → β → Prop) (b b' : Bps β) : Prop :=
  (∀ c ≠ bp, b.get c = b'.get c) ∧ S (b.get bp) (b'.get bp)

/-- Two schedules are the same but for one argument. -/
inductive Schedule.SameBut : ArgumentPlace → Schedule α → Schedule α → Prop
  | same (p : ArgumentPlace) (s : Schedule α) : SameBut p s s
  | uniform {index : Nat} {argument : String} {ops ops' : List (Operation α)}
    (h : Operation.ListSameBut index argument ops ops') :
    SameBut ⟨none, index, argument⟩ (.uniform ops) (.uniform ops')
  | perBreakpoint {bp : Breakpoint} {index : Nat} {argument : String}
    {b b' : Bps (Option (List (Operation α)))}
    (h : b.SameBut bp (Option.Rel (Operation.ListSameBut index argument)) b') :
    SameBut ⟨some bp, index, argument⟩ (.perBreakpoint b) (.perBreakpoint b')

theorem Operation.SameBut.refl (argument : String) (op : Operation α) : op.SameBut argument op := by
  cases op with
  | moveTo => exact .moveTo (fun _ => rfl) (fun _ => rfl) fun _ => rfl
  | moveBy => exact .moveBy (fun _ => rfl) (fun _ => rfl) fun _ => rfl
  | align axis => exact .align axis (fun _ => rfl) (fun _ => rfl) fun _ => rfl
  | alignAll axis => exact .alignAll axis (fun _ => rfl) (fun _ => rfl) fun _ => rfl
  | stack axis => exact .stack axis fun _ => rfl

theorem Operation.ListSameBut.refl (index : Nat) (argument : String) (ops : List (Operation α)) :
    ListSameBut index argument ops ops :=
  ⟨fun _ _ => rfl, optionRel_refl (SameBut.refl argument) _⟩

/-! ## Arguments -/

section arguments

variable {R : Value α → Value α → Prop} {name : String}

theorem lookup_butOne {es es' : List (String × Value α)} (h : ButOne (OnField name R) es es')
    {other : String} (hother : name ≠ other) : es.lookup other = es'.lookup other := by
  induction h with
  | refl => rfl
  | @head e f h l =>
    obtain ⟨k, v⟩ := e
    obtain ⟨k', v'⟩ := f
    obtain rfl : k = name := h.left
    obtain rfl : k' = k := h.right
    rw [List.lookup_cons, List.lookup_cons, beq_false_of_ne hother.symm]
  | tail e _ ih =>
    obtain ⟨k, v⟩ := e
    rw [List.lookup_cons, List.lookup_cons, ih]

/-- As many fields have a key in the one as in the other. -/
theorem length_filter_butOne {es es' : List (String × Value α)}
    (h : ButOne (OnField name R) es es') (key : String) :
    (es.filter fun e => e.1 == key).length = (es'.filter fun e => e.1 == key).length := by
  induction h with
  | refl => rfl
  | @head e f h l =>
    rw [List.filter_cons, List.filter_cons, h.left, h.right]
    split <;> rfl
  | tail e _ ih =>
    rw [List.filter_cons, List.filter_cons]
    split
    · rw [List.length_cons, List.length_cons, ih]
    · exact ih

/-- A list of arguments in which one is replaced differs under the name of that one. -/
theorem butOne_zip_set {names : List String} {vs : List (Value α)} {i : Nat} {v w : Value α}
    (hname : names[i]? = some name) (hv : vs[i]? = some v) (hR : R v w) :
    ButOne (OnField name R) (names.zip vs) (names.zip (vs.set i w)) := by
  induction names generalizing vs i with
  | nil => exact nomatch hname
  | cons n names ih =>
    cases vs with
    | nil => exact nomatch hv
    | cons u vs =>
      cases i with
      | zero =>
        obtain rfl := Option.some.inj hv
        exact .head ⟨Option.some.inj hname, Option.some.inj hname, hR⟩ _
      | succ i => exact .tail (n, u) (ih hname hv)

end arguments

namespace Operation

variable {argument : String}

/-- Arguments under all names but one are the same. -/
def ArgumentsAgree (argument : String) (arg arg' : String → Value α) : Prop :=
  ∀ n, argument ≠ n → arg n = arg' n

theorem argumentsAgree_of_butOne {R : Value α → Value α → Prop} {es es' : List (String × Value α)}
    (h : ButOne (OnField argument R) es es') :
    ArgumentsAgree argument (fieldArgument es) (fieldArgument es') := by
  intro n hn
  rw [fieldArgument, fieldArgument, lookup_butOne h hn]

/-- **The shape of the arguments is right for both values or for neither.** -/
theorem arguments?_rel {names : List String} {args args' : Value α}
    (h : InRecord names argument (fun _ _ => True) args args') :
    Option.Rel (ArgumentsAgree argument) (arguments? names args) (arguments? names args') := by
  cases h with
  | same => exact optionRel_refl (fun _ _ _ => rfl) _
  | field h =>
    simp only [arguments?, length_filter_butOne h]
    split
    · exact .some (argumentsAgree_of_butOne h)
    · exact .none
  | item hname hv h =>
    rw [arguments?, arguments?, List.length_set]
    split
    · exact .some (argumentsAgree_of_butOne (butOne_zip_set (R := fun _ _ => True) hname hv h))
    · exact .none

variable [Scalar α]

/-- **The verb is known with both arguments or with neither.** -/
theorem build?_rel {arg arg' : String → Value α} (h : ArgumentsAgree argument arg arg')
    (verb : String) : Option.Rel (SameBut argument) (build? verb arg) (build? verb arg') := by
  have hread : ∀ {β : Type} (read : Value α → β) (n : String), argument ≠ n →
      read (arg n) = read (arg' n) := fun read n hn => by rw [h n hn]
  unfold build?
  dsimp only
  split
  · exact .some (.moveTo (hread _ "from") (hread _ "to") (hread _ "gap"))
  · exact .some (.moveBy (hread _ "from") (hread _ "by") (hread _ "gap"))
  · exact .some (.align .x (hread _ "from") (hread _ "to") (hread _ "gap"))
  · exact .some (.align .y (hread _ "from") (hread _ "to") (hread _ "gap"))
  · exact .some (.alignAll .x (hread _ "to") (hread _ "anchor") (hread _ "gap"))
  · exact .some (.alignAll .y (hread _ "to") (hread _ "anchor") (hread _ "gap"))
  · exact .some (.stack .x (hread _ "gap"))
  · exact .some (.stack .y (hread _ "gap"))
  · exact .none

theorem ofValue?_rel {v v' : Value α} (h : DifferIn argument v v') :
    Option.Rel (SameBut argument) (ofValue? v) (ofValue? v') := by
  cases h with
  | intro verb h =>
    exact optionRel_bind (arguments?_rel h) fun _ _ hargs => build?_rel hargs verb

/-! ## Lists of operations -/

/-- **A list of operations is read with both arguments or with neither**, and differs in the place
of the argument. -/
theorem listOfValue?_rel {index : Nat} {v v' : Value α} (h : ListsDifferIn index argument v v') :
    Option.Rel (ListSameBut index argument) (listOfValue? v) (listOfValue? v') := by
  obtain ⟨hv, hdiffer⟩ := h
  rename_i vs v w
  change Option.Rel (ListSameBut index argument) (vs.mapM ofValue?) ((vs.set index w).mapM ofValue?)
  induction vs generalizing index with
  | nil => exact nomatch hv
  | cons u vs ih =>
    cases index with
    | zero =>
      obtain rfl := Option.some.inj hv
      rw [List.set_cons_zero, List.mapM_cons, List.mapM_cons]
      refine optionRel_bind (ofValue?_rel hdiffer) fun op op' hop => ?_
      refine optionRel_bind_same _ fun ops => .some ⟨fun i hi => ?_, .some hop⟩
      cases i with
      | zero => exact absurd rfl hi
      | succ i => rw [List.getElem?_cons_succ, List.getElem?_cons_succ]
    | succ index =>
      rw [List.set_cons_succ, List.mapM_cons, List.mapM_cons]
      refine optionRel_bind_same _ fun op => ?_
      refine optionRel_bind (ih hv) fun ops ops' hops => ?_
      refine .some ⟨fun i hi => ?_, hops.2⟩
      cases i with
      | zero => rw [List.getElem?_cons_zero, List.getElem?_cons_zero]
      | succ i => exact hops.1 i fun heq => hi (by rw [heq])

end Operation

/-! ## Schedules -/

/-- **Values by breakpoint are read from both objects or from neither**, and differ at the
breakpoint whose name the field has. -/
theorem Bps.ofFields?_rel {β : Type} {R : Value α → Value α → Prop} {S : β → β → Prop}
    (hS : ∀ b, S b b) {read : Value α → Option β} {bp : Breakpoint}
    (hread : ∀ v w, R v w → Option.Rel S (read v) (read w)) {es es' : List (String × Value α)}
    (h : ButOne (OnField bp.name R) es es') :
    Option.Rel (Bps.SameBut bp (Option.Rel S)) (ofFields? read es) (ofFields? read es') := by
  have hrefl : ∀ b : Bps (Option β), b.SameBut bp (Option.Rel S) b := fun b =>
    ⟨fun _ _ => rfl, optionRel_refl hS _⟩
  induction h with
  | refl => exact optionRel_refl hrefl _
  | @head e f h l =>
    obtain ⟨k, v⟩ := e
    obtain ⟨k', v'⟩ := f
    obtain rfl : k = bp.name := h.left
    obtain rfl : k' = bp.name := h.right
    simp only [ofFields?, Breakpoint.ofName?_name, Option.bind_eq_bind, Option.bind_some]
    refine optionRel_bind (hread v v' h.value) fun b b' hb => ?_
    refine optionRel_bind_same _ fun others => .some ?_
    split
    · exact hrefl others
    · refine ⟨fun c hc => ?_, ?_⟩
      · rw [get_set, get_set, if_neg hc, if_neg hc]
      · rw [get_set, get_set, if_pos rfl, if_pos rfl]
        exact .some hb
  | tail e _ ih =>
    obtain ⟨k, v⟩ := e
    rw [ofFields?, ofFields?]
    refine optionRel_bind_same _ fun bp₁ => ?_
    refine optionRel_bind_same _ fun b => ?_
    refine optionRel_bind ih fun others others' hothers => ?_
    -- a later field of the same name counts, and there is one in both objects or in neither
    have hsome : (others.get bp₁).isSome = (others'.get bp₁).isSome := by
      by_cases hbp : bp₁ = bp
      · rw [hbp]
        exact isSome_eq_of_optionRel hothers.2
      · rw [hothers.1 bp₁ hbp]
    refine .some ?_
    rw [hsome]
    split
    · exact hothers
    · refine ⟨fun c hc => ?_, ?_⟩
      · rw [get_set, get_set, hothers.1 c hc]
      · rw [get_set, get_set]
        split
        · exact .some (hS b)
        · exact hothers.2

variable [Scalar α]

theorem Schedule.ofValue?_list (vs : List (Value α)) :
    Schedule.ofValue? (.list vs) = (Operation.listOfValue? (.list vs)).map .uniform := by
  unfold Schedule.ofValue? Responsive.ofValue?
  cases Operation.listOfValue? (.list vs) <;> rfl

theorem Schedule.ofValue?_object (es : List (String × Value α)) :
    Schedule.ofValue? (.object es) = (Bps.ofFields? Operation.listOfValue? es).map .perBreakpoint :=
  rfl

/-- **The frame of a schedule does not see the arguments**: with another argument in the place of
one a schedule is the same but for that argument, or is refused as before. -/
theorem Schedule.ofValue?_rel {p : ArgumentPlace} {v v' : Value α} (h : DifferAt p v v') :
    Option.Rel (SameBut p) (Schedule.ofValue? v) (Schedule.ofValue? v') := by
  cases h with
  | uniform h =>
    have hlist := Operation.listOfValue?_rel h
    cases h with
    | intro hv hdiffer =>
      rw [ofValue?_list, ofValue?_list]
      exact optionRel_map hlist fun _ _ => .uniform
  | perBreakpoint h =>
    have hfields := Bps.ofFields?_rel (Operation.ListSameBut.refl _ _)
      (fun _ _ => Operation.listOfValue?_rel) h
    rw [ofValue?_object, ofValue?_object]
    exact optionRel_map hfields fun _ _ => .perBreakpoint

end GridLayout
