import GridLayout.Proofs.Rigid

/-!
# Swapping the axes

To transpose is to swap the two axes: the components of every coordinate, columns with rows, and the
two anchors at the ends of the other diagonal, `bottomRight` and `topLeft`.  An operation along one
axis becomes the same operation along the other.

Operations know no axis by itself, so carrying out transposed operations on transposed boxes comes
to the transposed boxes, and an operation fails exactly when its transpose does, for the transposed
reason.

* `GridBox.anchor_transpose`: an anchor of a box, transposed.
* `Motion.apply_transpose`: moving boxes commutes with transposition.
* `Operation.check_transpose`: so do the checks of an operation, failures included.
* `Operation.runAll_transpose`: so does a list of operations.

No law of arithmetic is used, so all of this holds for rounded numbers as it does for exact ones.
-/

namespace GridLayout

variable {α : Type}

/-! ## Geometry -/

/-- The components swapped. -/
def Coordinate.transpose (c : Coordinate α) : Coordinate α := ⟨c.y, c.x⟩

/-- The anchor that takes the place of an anchor. -/
def Anchor.transpose : Anchor → Anchor
  | .bottomLeft => .bottomLeft
  | .bottomRight => .topLeft
  | .topLeft => .bottomRight
  | .topRight => .topRight
  | .center => .center

/-- The name that takes the place of an anchor's name; other names stay. -/
def Anchor.transposeName (name : String) : String :=
  if name = "bottomRight" then "topLeft" else if name = "topLeft" then "bottomRight" else name

theorem Coordinate.along_transpose (c : Coordinate α) (axis : Axis) :
    c.transpose.along axis.other = c.along axis := by
  cases axis <;> rfl

/-- The name of an anchor is transposed with it, and a name of no anchor remains one. -/
theorem Anchor.ofName?_transposeName (name : String) :
    Anchor.ofName? (Anchor.transposeName name) = (Anchor.ofName? name).map Anchor.transpose := by
  by_cases hright : name = "bottomRight"
  · rw [hright]
    decide +kernel
  by_cases hleft : name = "topLeft"
  · rw [hleft]
    decide +kernel
  rw [transposeName, if_neg hright, if_neg hleft]
  cases h : ofName? name with
  | none => rfl
  | some a =>
    have hname : a.name = name :=
      eq_of_beq (List.find?_some (p := fun b : Anchor => b.name == name) h)
    cases a with
    | bottomLeft => rfl
    | bottomRight => exact absurd hname.symm hright
    | topLeft => exact absurd hname.symm hleft
    | topRight => rfl
    | center => rfl

section

variable [Scalar α]

/-- The box with the axes swapped. -/
def GridBox.transpose (b : GridBox α) : GridBox α where
  origin := b.origin.transpose
  diagonal := b.diagonal.transpose
  exists_abs_eq := by
    obtain ⟨extent, h⟩ := b.exists_abs_eq
    exact ⟨extent.transpose, congrArg Coordinate.transpose h⟩

theorem Coordinate.onAxis_transpose (axis : Axis) (v : α) :
    Coordinate.onAxis axis.other v = (Coordinate.onAxis axis v).transpose := by
  cases axis <;> rfl

theorem Coordinate.isFinite_transpose (c : Coordinate α) : c.transpose.isFinite = c.isFinite :=
  Bool.and_comm _ _

/-- **An anchor of a box, transposed**, is the anchor that takes its place. -/
theorem GridBox.anchor_transpose (b : GridBox α) (a : Anchor) :
    b.transpose.anchor a.transpose = (b.anchor a).transpose := by
  cases a <;> rfl

theorem GridBox.level_transpose (b : GridBox α) (axis : Axis) (a : Anchor) (line : α) :
    b.transpose.level axis.other a.transpose line = (b.level axis a line).transpose := by
  rw [level, anchor_transpose, Coordinate.along_transpose, Coordinate.onAxis_transpose]
  rfl

theorem GridBox.place_transpose (axis : Axis) (gap cursor : α) (b : GridBox α) :
    b.transpose.place axis.other gap cursor =
      ((b.place axis gap cursor).1.transpose, (b.place axis gap cursor).2) := by
  cases axis <;> rfl

end

/-! ## Operations -/

/-- The reference to the anchor that takes the place of an anchor. -/
def AnchorRef.transpose (r : AnchorRef) : AnchorRef := ⟨r.boxId, Anchor.transposeName r.anchor⟩

/-- An argument with its value changed.  What stood in the place of one stays. -/
def Param.map {β γ : Type} (f : β → γ) : Param α β → Param α γ
  | .valid v => .valid (f v)
  | .malformed raw => .malformed raw

/-- The target with the axes swapped. -/
def Target.transpose : Target α → Target α
  | .point c => .point c.transpose
  | .value v => .value v
  | .anchor r => .anchor r.transpose
  | .malformed raw => .malformed raw

/-- The displacement with the axes swapped. -/
def Offset.transpose : Offset α → Offset α
  | .vector c => .vector c.transpose
  | .uniform v => .uniform v
  | .malformed raw => .malformed raw

/-- The operation with the axes swapped. -/
def Operation.transpose : Operation α → Operation α
  | .moveTo source target gap =>
    .moveTo (source.map AnchorRef.transpose) target.transpose (gap.map Offset.transpose)
  | .moveBy source displacement gap =>
    .moveBy source displacement.transpose (gap.map Offset.transpose)
  | .align axis source target gap =>
    .align axis.other (source.map AnchorRef.transpose) target.transpose gap
  | .alignAll axis target anchor gap =>
    .alignAll axis.other target.transpose (anchor.map Anchor.transposeName) gap
  | .stack axis gap => .stack axis.other gap

/-- The motion with the axes swapped. -/
def Motion.transpose : Motion α → Motion α
  | .shift boxId delta => .shift boxId delta.transpose
  | .level axis anchor line => .level axis.other anchor.transpose line
  | .stack axis gap => .stack axis.other gap

/-- The failure of a transposed operation. -/
def Failure.transpose : Failure α → Failure α
  | .malformed argument expected raw => .malformed argument expected raw
  | .notFinite argument value => .notFinite argument value.transpose
  | .unknownBox boxId suggestions => .unknownBox boxId suggestions
  | .unknownAnchor name boxId => .unknownAnchor (Anchor.transposeName name) boxId

/-- The boxes with the axes swapped. -/
def BoxMap.transpose [Scalar α] (boxes : BoxMap α) : BoxMap α := boxes.map GridBox.transpose

/-! ## Checks -/

/-- A result with what it is of changed, be it a value or a failure. -/
def mapOutcome {ε ε' β γ : Type} (f : ε → ε') (g : β → γ) : Except ε β → Except ε' γ
  | .ok v => .ok (g v)
  | .error e => .error (f e)

/-- Two steps in a row are transposed when each of them is. -/
theorem mapOutcome_bind {ε ε' β γ β' γ' : Type} {f : ε → ε'} {g : β → β'} {h : γ → γ'}
    {x : Except ε β} {x' : Except ε' β'} {k : β → Except ε γ} {k' : β' → Except ε' γ'}
    (hx : x' = mapOutcome f g x) (hk : ∀ v, k' (g v) = mapOutcome f h (k v)) :
    (x' >>= k') = mapOutcome f h (x >>= k) := by
  rw [hx]
  cases x with
  | ok v => exact hk v
  | error e => rfl

theorem Param.check_map {β γ : Type} (g : β → γ) (p : Param α β) (argument : Argument)
    (expected : Expectation) :
    (p.map g).check argument expected =
      mapOutcome Failure.transpose g (p.check argument expected) := by
  cases p <;> rfl

theorem Param.check_transpose {β : Type} (p : Param α β) (argument : Argument)
    (expected : Expectation) :
    p.check argument expected = mapOutcome Failure.transpose id (p.check argument expected) := by
  cases p <;> rfl

theorem findAnchor_transpose (name : String) (boxId : Option String) :
    (findAnchor (Anchor.transposeName name) boxId : Except (Failure α) Anchor) =
      mapOutcome Failure.transpose Anchor.transpose (findAnchor name boxId) := by
  rw [findAnchor, findAnchor, Anchor.ofName?_transposeName]
  cases Anchor.ofName? name <;> rfl

section

variable [Scalar α]

theorem findBox_transpose (boxes : BoxMap α) (boxId : String) :
    findBox (BoxMap.transpose boxes) boxId =
      mapOutcome Failure.transpose GridBox.transpose (findBox boxes boxId) := by
  rw [findBox, findBox, BoxMap.transpose, IdMap.get?_map, IdMap.keys_map]
  cases boxes.get? boxId <;> rfl

theorem AnchorRef.find_transpose (r : AnchorRef) (boxes : BoxMap α) :
    r.transpose.find (BoxMap.transpose boxes) =
      mapOutcome Failure.transpose (Prod.map GridBox.transpose Anchor.transpose)
        (r.find boxes) := by
  rw [AnchorRef.find, AnchorRef.find]
  refine mapOutcome_bind (findBox_transpose boxes r.boxId) fun b => ?_
  exact mapOutcome_bind (findAnchor_transpose r.anchor (some r.boxId)) fun a => rfl

theorem finite_transpose (argument : Argument) (value : Coordinate α) :
    finite argument value.transpose =
      mapOutcome Failure.transpose Coordinate.transpose (finite argument value) := by
  rw [finite, finite, Coordinate.isFinite_transpose]
  cases value.isFinite <;> rfl

theorem Target.resolve_transpose (t : Target α) (boxes : BoxMap α) :
    t.transpose.resolve (BoxMap.transpose boxes) =
      mapOutcome Failure.transpose Coordinate.transpose (t.resolve boxes) := by
  cases t with
  | point c => exact finite_transpose .target c
  | value v => exact finite_transpose .target (Coordinate.splat v)
  | anchor r =>
    refine mapOutcome_bind (r.find_transpose boxes) fun found => ?_
    obtain ⟨b, a⟩ := found
    exact congrArg Except.ok (b.anchor_transpose a)
  | malformed raw => rfl

theorem Offset.resolve_transpose (o : Offset α) (argument : Argument) :
    o.transpose.resolve argument =
      mapOutcome Failure.transpose Coordinate.transpose (o.resolve argument) := by
  cases o with
  | vector c => exact finite_transpose argument c
  | uniform v => exact finite_transpose argument (Coordinate.splat v)
  | malformed raw => rfl

theorem planeGap_transpose (gap : Option (Offset α)) :
    planeGap (gap.map Offset.transpose) =
      mapOutcome Failure.transpose Coordinate.transpose (planeGap gap) := by
  cases gap with
  | none => rfl
  | some o => exact o.resolve_transpose .gap

theorem lineGap_transpose (gap : Option (Param α α)) :
    lineGap gap = mapOutcome Failure.transpose id (lineGap gap) := by
  cases gap with
  | none => rfl
  | some p =>
    refine mapOutcome_bind (p.check_transpose .gap .number) fun v => ?_
    show (finite .gap (Coordinate.splat v) >>= fun c => pure c.x) =
      mapOutcome Failure.transpose id (finite .gap (Coordinate.splat v) >>= fun c => pure c.x)
    rw [finite]
    cases (Coordinate.splat v).isFinite <;> rfl

/-! ## Motions -/

/-- **Moving boxes commutes with transposition.** -/
theorem Motion.apply_transpose (m : Motion α) (boxes : BoxMap α) :
    m.transpose.apply (BoxMap.transpose boxes) = BoxMap.transpose (m.apply boxes) := by
  cases m with
  | shift boxId delta =>
    rw [transpose, apply, apply, BoxMap.transpose, BoxMap.transpose, IdMap.modify_eq_mapEntries,
      IdMap.modify_eq_mapEntries, IdMap.mapEntries_map, IdMap.map_mapEntries]
    refine IdMap.mapEntries_congr fun e _ => ?_
    split <;> rfl
  | level axis a line =>
    rw [transpose, apply, apply, BoxMap.transpose, BoxMap.transpose, IdMap.map_map, IdMap.map_map]
    exact IdMap.map_congr fun b _ => b.level_transpose axis a line
  | stack axis gap =>
    exact IdMap.mapAccum_map (GridBox.place_transpose axis gap) _ boxes

/-! ## Carrying out operations -/

namespace Operation

/-- **The checks of an operation commute with transposition**: they lead to the transposed motion,
or fail for the transposed reason. -/
theorem check_transpose (op : Operation α) (boxes : BoxMap α) :
    op.transpose.check (BoxMap.transpose boxes) =
      mapOutcome Failure.transpose Motion.transpose (op.check boxes) := by
  cases op with
  | moveTo source target gap =>
    refine mapOutcome_bind (source.check_map AnchorRef.transpose .source .anchorRef) fun r => ?_
    refine mapOutcome_bind (r.find_transpose boxes) fun found => ?_
    obtain ⟨b, a⟩ := found
    refine mapOutcome_bind (target.resolve_transpose boxes) fun point => ?_
    refine mapOutcome_bind (planeGap_transpose gap) fun gap => ?_
    show pure (Motion.shift r.boxId
      (point.transpose + gap.transpose - b.transpose.anchor a.transpose)) = _
    rw [b.anchor_transpose]
    rfl
  | moveBy source displacement gap =>
    refine mapOutcome_bind (source.check_transpose .source .boxRef) fun r => ?_
    refine mapOutcome_bind (findBox_transpose boxes r.boxId) fun _ => ?_
    refine mapOutcome_bind (displacement.resolve_transpose .displacement) fun delta => ?_
    exact mapOutcome_bind (planeGap_transpose gap) fun gap => rfl
  | align axis source target gap =>
    refine mapOutcome_bind (source.check_map AnchorRef.transpose .source .anchorRef) fun r => ?_
    refine mapOutcome_bind (r.find_transpose boxes) fun found => ?_
    obtain ⟨b, a⟩ := found
    refine mapOutcome_bind (target.resolve_transpose boxes) fun point => ?_
    refine mapOutcome_bind (lineGap_transpose gap) fun gap => ?_
    show pure (Motion.shift r.boxId (Coordinate.onAxis axis.other
      (point.transpose.along axis.other + gap -
        (b.transpose.anchor a.transpose).along axis.other))) = _
    rw [b.anchor_transpose, Coordinate.along_transpose, Coordinate.along_transpose,
      Coordinate.onAxis_transpose]
    rfl
  | alignAll axis target anchor gap =>
    refine mapOutcome_bind (anchor.check_map Anchor.transposeName .anchor .anchorName)
      fun name => ?_
    refine mapOutcome_bind (findAnchor_transpose name none) fun a => ?_
    refine mapOutcome_bind (target.resolve_transpose boxes) fun point => ?_
    refine mapOutcome_bind (lineGap_transpose gap) fun gap => ?_
    show pure (Motion.level axis.other a.transpose (point.transpose.along axis.other + gap)) = _
    rw [Coordinate.along_transpose]
    rfl
  | stack axis gap => exact mapOutcome_bind (lineGap_transpose gap) fun gap => rfl

theorem run_transpose (op : Operation α) (boxes : BoxMap α) :
    op.transpose.run (BoxMap.transpose boxes) =
      mapOutcome Failure.transpose BoxMap.transpose (op.run boxes) := by
  rw [run, run, check_transpose]
  cases op.check boxes with
  | ok m => exact congrArg Except.ok (m.apply_transpose boxes)
  | error f => rfl

/-- **A list of operations commutes with transposition**: the boxes come out transposed, and the
same operations fail, for the transposed reasons. -/
theorem runAll_transpose (ops : List (Operation α)) (boxes : BoxMap α) :
    runAll (ops.map transpose) (BoxMap.transpose boxes) =
      (BoxMap.transpose (runAll ops boxes).1,
        (runAll ops boxes).2.map (Prod.map transpose Failure.transpose)) := by
  induction ops generalizing boxes with
  | nil => rfl
  | cons op ops ih =>
    have htransposed := op.run_transpose boxes
    rw [List.map_cons]
    cases hrun : op.run boxes with
    | ok moved =>
      rw [hrun] at htransposed
      rw [runAll_cons_of_ok htransposed, runAll_cons_of_ok hrun, ih]
    | error f =>
      rw [hrun] at htransposed
      rw [runAll_cons_of_error htransposed, runAll_cons_of_error hrun, ih]
      rfl

end Operation

end

end GridLayout
