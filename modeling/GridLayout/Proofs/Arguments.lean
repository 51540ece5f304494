import GridLayout.Arrange.Motion
import GridLayout.Proofs.IdMap
import GridLayout.Proofs.Outcomes

/-!
# What arguments stand for

The checks of an operation read its arguments one after another, and any of them may fail.
`Target.StandsFor` and `Offset.StandsFor` say what an argument stands for without regard to how it
is read and what happens when it cannot be: relations between the argument and a point or an amount.
A gap that is absent stands for what the gap zero stands for.

* `Target.resolve_eq_ok_iff`, `Offset.resolve_eq_ok_iff`, `planeGap_eq_ok_iff`,
  `lineGap_eq_ok_iff`: each argument is read as what it stands for.
* `Operation.check_moveTo_eq_ok_iff` and its siblings: the checks of an operation lead to a motion
  exactly when its arguments stand for something, and the motion is made of what they stand for.

Everything is in exact numbers, all of which are finite.
-/

namespace GridLayout

/-! ## Arguments -/

/-- The point that a target stands for among some boxes: itself, the point with one number on both
axes, or an anchor of a box. -/
inductive Target.StandsFor (boxes : BoxMap Rat) : Target Rat → Coordinate Rat → Prop
  | point (c : Coordinate Rat) : StandsFor boxes (.point c) c
  | value (v : Rat) : StandsFor boxes (.value v) ⟨v, v⟩
  | anchor {id : String} {b : GridBox Rat} (a : Anchor) (h : boxes.get? id = some b) :
    StandsFor boxes (.anchor ⟨id, a.name⟩) (b.anchor a)

/-- The displacement that an offset stands for: itself, or one number on both axes. -/
inductive Offset.StandsFor : Offset Rat → Coordinate Rat → Prop
  | vector (c : Coordinate Rat) : StandsFor (.vector c) c
  | uniform (v : Rat) : StandsFor (.uniform v) ⟨v, v⟩

section

variable {α : Type}

theorem Anchor.ofName?_eq_some_iff {name : String} {a : Anchor} :
    Anchor.ofName? name = some a ↔ name = a.name := by
  constructor
  · intro h
    rw [Anchor.ofName?] at h
    have hname := List.find?_some h
    exact (eq_of_beq hname).symm
  · rintro rfl
    exact Anchor.ofName?_name a

theorem Anchor.name_injective : Function.Injective Anchor.name := fun a a' h =>
  Option.some.inj ((Anchor.ofName?_name a).symm.trans (h ▸ Anchor.ofName?_name a'))

theorem Param.check_eq_ok_iff {β : Type} {p : Param α β} {argument : Argument}
    {expected : Expectation} {v : β} : p.check argument expected = .ok v ↔ p = .valid v := by
  cases p with
  | valid w =>
    constructor
    · intro h
      rw [Except.ok.inj h]
    · intro h
      rw [Param.valid.inj h]
      rfl
  | malformed raw => exact ⟨nofun, nofun⟩

theorem findAnchor_eq_ok_iff {name : String} {boxId : Option String} {a : Anchor} :
    (findAnchor name boxId : Except (Failure α) Anchor) = .ok a ↔ name = a.name := by
  rw [← Anchor.ofName?_eq_some_iff, findAnchor]
  cases Anchor.ofName? name with
  | some c =>
    rw [Except.ok.injEq, Option.some.injEq]
  | none => exact ⟨nofun, nofun⟩

variable [Scalar α] {boxes : BoxMap α}

theorem findBox_eq_ok_iff {boxId : String} {b : GridBox α} :
    findBox boxes boxId = .ok b ↔ boxes.get? boxId = some b := by
  rw [findBox]
  cases boxes.get? boxId with
  | some c =>
    rw [Except.ok.injEq, Option.some.injEq]
  | none => exact ⟨nofun, nofun⟩

/-- A reference is to a box that is there and to one of its anchors. -/
theorem AnchorRef.find_eq_ok_iff {r : AnchorRef} {b : GridBox α} {a : Anchor} :
    r.find boxes = .ok (b, a) ↔ boxes.get? r.boxId = some b ∧ r.anchor = a.name := by
  rw [AnchorRef.find, bind_eq_ok_iff]
  constructor
  · rintro ⟨c, hc, h⟩
    obtain ⟨d, hd, heq⟩ := bind_eq_ok_iff.mp h
    obtain ⟨rfl, rfl⟩ := Prod.mk.inj (Except.ok.inj heq)
    exact ⟨findBox_eq_ok_iff.mp hc, findAnchor_eq_ok_iff.mp hd⟩
  · rintro ⟨hbox, hanchor⟩
    exact ⟨b, findBox_eq_ok_iff.mpr hbox,
      bind_eq_ok_iff.mpr ⟨a, findAnchor_eq_ok_iff.mpr hanchor, rfl⟩⟩

end

/-- A target is read as the point that it stands for. -/
theorem Target.resolve_eq_ok_iff {t : Target Rat} {boxes : BoxMap Rat} {p : Coordinate Rat} :
    t.resolve boxes = .ok p ↔ t.StandsFor boxes p := by
  cases t with
  | point c =>
    constructor
    · intro h
      obtain rfl : c = p := Except.ok.inj h
      exact .point c
    · rintro ⟨⟩
      rfl
  | value v =>
    constructor
    · intro h
      obtain rfl : Coordinate.splat v = p := Except.ok.inj h
      exact .value v
    · rintro ⟨⟩
      rfl
  | anchor r =>
    rw [resolve, bind_eq_ok_iff]
    constructor
    · rintro ⟨⟨b, a⟩, hfind, heq⟩
      obtain rfl : b.anchor a = p := Except.ok.inj heq
      obtain ⟨id, name⟩ := r
      obtain ⟨hbox, rfl⟩ := AnchorRef.find_eq_ok_iff.mp hfind
      exact .anchor a hbox
    · intro h
      cases h with
      | @anchor id b a hbox =>
        exact ⟨(b, a), AnchorRef.find_eq_ok_iff.mpr ⟨hbox, rfl⟩, rfl⟩
  | malformed raw => exact ⟨nofun, nofun⟩

/-- A target stands for one point at most. -/
theorem Target.StandsFor.unique {t : Target Rat} {boxes : BoxMap Rat} {p q : Coordinate Rat}
    (hp : t.StandsFor boxes p) (hq : t.StandsFor boxes q) : p = q :=
  Except.ok.inj ((resolve_eq_ok_iff.mpr hp).symm.trans (resolve_eq_ok_iff.mpr hq))

theorem Offset.resolve_eq_ok_iff {o : Offset Rat} {argument : Argument} {d : Coordinate Rat} :
    o.resolve argument = .ok d ↔ o.StandsFor d := by
  cases o with
  | vector c =>
    constructor
    · intro h
      obtain rfl : c = d := Except.ok.inj h
      exact .vector c
    · rintro ⟨⟩
      rfl
  | uniform v =>
    constructor
    · intro h
      obtain rfl : Coordinate.splat v = d := Except.ok.inj h
      exact .uniform v
    · rintro ⟨⟩
      rfl
  | malformed raw => exact ⟨nofun, nofun⟩

/-- No gap in the plane is the gap of no displacement. -/
theorem planeGap_eq_ok_iff {gap : Option (Offset Rat)} {g : Coordinate Rat} :
    planeGap gap = .ok g ↔ (gap.getD (.vector Coordinate.zero)).StandsFor g := by
  cases gap with
  | none => exact @Offset.resolve_eq_ok_iff (.vector Coordinate.zero) .gap g
  | some o => exact Offset.resolve_eq_ok_iff

/-- No gap along an axis is the gap zero. -/
theorem lineGap_eq_ok_iff {gap : Option (Param Rat Rat)} {g : Rat} :
    lineGap gap = .ok g ↔ gap.getD (.valid 0) = .valid g := by
  have hvalid : ∀ v : Rat, lineGap (some (.valid v)) = .ok v := fun _ => rfl
  have hnone : lineGap (none : Option (Param Rat Rat)) = .ok 0 := rfl
  cases gap with
  | none =>
    rw [hnone, Option.getD_none, Except.ok.injEq, Param.valid.injEq]
  | some p =>
    cases p with
    | valid v => rw [hvalid, Option.getD_some, Except.ok.injEq, Param.valid.injEq]
    | malformed raw => exact ⟨nofun, nofun⟩

/-! ## Checks -/

namespace Operation

variable {boxes : BoxMap Rat}

/-- What is read first by an operation that aims an anchor of a box at a target: the box, the anchor
and the point. -/
theorem readings_eq_ok_iff {β : Type} {source : Param Rat AnchorRef} {target : Target Rat}
    {f : AnchorRef → GridBox Rat → Anchor → Coordinate Rat → Except (Failure Rat) β} {v : β} :
    (source.check .source .anchorRef >>= fun r => r.find boxes >>= fun found =>
      target.resolve boxes >>= fun p => f r found.1 found.2 p) = .ok v ↔
      ∃ id a b p, source = .valid ⟨id, Anchor.name a⟩ ∧ boxes.get? id = some b ∧
        target.StandsFor boxes p ∧ f ⟨id, Anchor.name a⟩ b a p = .ok v := by
  constructor
  · intro h
    obtain ⟨⟨id, name⟩, hsource, h⟩ := bind_eq_ok_iff.mp h
    obtain ⟨⟨b, a⟩, hfind, h⟩ := bind_eq_ok_iff.mp h
    obtain ⟨p, htarget, h⟩ := bind_eq_ok_iff.mp h
    obtain ⟨hbox, rfl⟩ := AnchorRef.find_eq_ok_iff.mp hfind
    exact ⟨id, a, b, p, Param.check_eq_ok_iff.mp hsource, hbox,
      Target.resolve_eq_ok_iff.mp htarget, h⟩
  · rintro ⟨id, a, b, p, hsource, hbox, htarget, h⟩
    refine bind_eq_ok_iff.mpr ⟨⟨id, a.name⟩, Param.check_eq_ok_iff.mpr hsource, ?_⟩
    refine bind_eq_ok_iff.mpr ⟨(b, a), AnchorRef.find_eq_ok_iff.mpr ⟨hbox, rfl⟩, ?_⟩
    exact bind_eq_ok_iff.mpr ⟨p, Target.resolve_eq_ok_iff.mpr htarget, h⟩

theorem check_moveTo_eq_ok_iff {source : Param Rat AnchorRef} {target : Target Rat}
    {gap : Option (Offset Rat)} {m : Motion Rat} :
    (Operation.moveTo source target gap).check boxes = .ok m ↔
      ∃ id a b p g, source = .valid ⟨id, Anchor.name a⟩ ∧ boxes.get? id = some b ∧
        target.StandsFor boxes p ∧ (gap.getD (.vector Coordinate.zero)).StandsFor g ∧
        m = .shift id (p + g - b.anchor a) := by
  refine (readings_eq_ok_iff (f := fun r b a p => planeGap gap >>= fun g =>
    pure (Motion.shift r.boxId (p + g - b.anchor a)))).trans ?_
  simp only [bind_pure_eq_ok_iff, planeGap_eq_ok_iff, exists_and_left]

theorem check_align_eq_ok_iff {axis : Axis} {source : Param Rat AnchorRef} {target : Target Rat}
    {gap : Option (Param Rat Rat)} {m : Motion Rat} :
    (Operation.align axis source target gap).check boxes = .ok m ↔
      ∃ id a b p g, source = .valid ⟨id, Anchor.name a⟩ ∧ boxes.get? id = some b ∧
        target.StandsFor boxes p ∧ gap.getD (.valid 0) = .valid g ∧
        m = .shift id
          (Coordinate.onAxis axis (p.along axis + g - (b.anchor a).along axis)) := by
  refine (readings_eq_ok_iff (f := fun r b a p => lineGap gap >>= fun g =>
    pure (Motion.shift r.boxId
      (Coordinate.onAxis axis (p.along axis + g - (b.anchor a).along axis))))).trans ?_
  simp only [bind_pure_eq_ok_iff, lineGap_eq_ok_iff, exists_and_left]

theorem check_moveBy_eq_ok_iff {source : Param Rat BoxRef} {displacement : Offset Rat}
    {gap : Option (Offset Rat)} {m : Motion Rat} :
    (Operation.moveBy source displacement gap).check boxes = .ok m ↔
      ∃ id b d g, source = .valid ⟨id⟩ ∧ boxes.get? id = some b ∧ displacement.StandsFor d ∧
        (gap.getD (.vector Coordinate.zero)).StandsFor g ∧ m = .shift id (d + g) := by
  constructor
  · intro h
    obtain ⟨⟨id⟩, hsource, h⟩ := bind_eq_ok_iff.mp h
    obtain ⟨b, hbox, h⟩ := bind_eq_ok_iff.mp h
    obtain ⟨d, hd, h⟩ := bind_eq_ok_iff.mp h
    obtain ⟨g, hgap, rfl⟩ := bind_pure_eq_ok_iff.mp h
    exact ⟨id, b, d, g, Param.check_eq_ok_iff.mp hsource, findBox_eq_ok_iff.mp hbox,
      Offset.resolve_eq_ok_iff.mp hd, planeGap_eq_ok_iff.mp hgap, rfl⟩
  · rintro ⟨id, b, d, g, hsource, hbox, hd, hgap, rfl⟩
    refine bind_eq_ok_iff.mpr ⟨⟨id⟩, Param.check_eq_ok_iff.mpr hsource, ?_⟩
    refine bind_eq_ok_iff.mpr ⟨b, findBox_eq_ok_iff.mpr hbox, ?_⟩
    refine bind_eq_ok_iff.mpr ⟨d, Offset.resolve_eq_ok_iff.mpr hd, ?_⟩
    exact bind_pure_eq_ok_iff.mpr ⟨g, planeGap_eq_ok_iff.mpr hgap, rfl⟩

theorem check_alignAll_eq_ok_iff {axis : Axis} {target : Target Rat} {anchor : Param Rat String}
    {gap : Option (Param Rat Rat)} {m : Motion Rat} :
    (Operation.alignAll axis target anchor gap).check boxes = .ok m ↔
      ∃ a p g, anchor = .valid (Anchor.name a) ∧ target.StandsFor boxes p ∧
        gap.getD (.valid 0) = .valid g ∧ m = .level axis a (p.along axis + g) := by
  constructor
  · intro h
    obtain ⟨name, hanchor, h⟩ := bind_eq_ok_iff.mp h
    obtain ⟨a, hname, h⟩ := bind_eq_ok_iff.mp h
    obtain ⟨p, htarget, h⟩ := bind_eq_ok_iff.mp h
    obtain ⟨g, hgap, rfl⟩ := bind_pure_eq_ok_iff.mp h
    obtain rfl : name = a.name := findAnchor_eq_ok_iff.mp hname
    exact ⟨a, p, g, Param.check_eq_ok_iff.mp hanchor, Target.resolve_eq_ok_iff.mp htarget,
      lineGap_eq_ok_iff.mp hgap, rfl⟩
  · rintro ⟨a, p, g, hanchor, htarget, hgap, rfl⟩
    refine bind_eq_ok_iff.mpr ⟨a.name, Param.check_eq_ok_iff.mpr hanchor, ?_⟩
    refine bind_eq_ok_iff.mpr ⟨a, findAnchor_eq_ok_iff.mpr rfl, ?_⟩
    refine bind_eq_ok_iff.mpr ⟨p, Target.resolve_eq_ok_iff.mpr htarget, ?_⟩
    exact bind_pure_eq_ok_iff.mpr ⟨g, lineGap_eq_ok_iff.mpr hgap, rfl⟩

end Operation

end GridLayout
