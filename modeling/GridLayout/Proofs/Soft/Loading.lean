import GridLayout.Document.Content
import GridLayout.Proofs.Soft.Schedules
import GridLayout.Proofs.Soft.Shapes

/-!
# Soft arguments never fail a load

A document is records in maps in records, down to the dimension of a box and to the arguments of an
operation.  These are soft: they are read from any value.  So a document in which one of them is
replaced by another value loads when the document loads, and what is loaded differs in that one
place.

A `LayoutPlace` is the way to a soft part.  `DifferAt` says of two values, and `SameBut` of what is
read from them, that they differ in such a place only.

* `Document.respects_readSection`, `Document.respects_readLayout`: one level of a document, with the
  relation on one of its fields left open.
* `Document.respects_readDocument`: the whole way down.
* `Document.soft_arguments`: what a soft part is read as, and that a load does not depend on it.
-/

namespace GridLayout

/-! ## Places of soft parts -/

/-- A soft part of a section. -/
inductive SectionPlace where
  | dimension (boxId : String)
  | argument (p : ArgumentPlace)

/-- A soft part of a layout. -/
inductive LayoutPlace where
  | inSection (id : String) (p : SectionPlace)
  | argument (p : ArgumentPlace)

section

variable {α : Type}

/-- Two values stand for boxes that may have different dimensions. -/
def BoxSpec.Differ : Value α → Value α → Prop :=
  InRecord ["dimension"] "dimension" fun _ _ => True

/-- Two values stand for sections that differ in a soft part. -/
def SectionSpec.DifferAt : SectionPlace → Value α → Value α → Prop
  | .dimension boxId =>
    InRecord ["boxes", "transformations", "order"] "boxes" (InMap boxId BoxSpec.Differ)
  | .argument p =>
    InRecord ["boxes", "transformations", "order"] "transformations" (Schedule.DifferAt p)

/-- Two values stand for layouts that differ in a soft part. -/
def LayoutSpec.DifferAt : LayoutPlace → Value α → Value α → Prop
  | .inSection id p =>
    InRecord ["sections", "transformations"] "sections" (InMap id (SectionSpec.DifferAt p))
  | .argument p =>
    InRecord ["sections", "transformations"] "transformations" (Schedule.DifferAt p)

/-- Two values stand for documents that differ in a soft part. -/
def Document.DifferAt (p : LayoutPlace) : Value α → Value α → Prop :=
  InRecord ["solver", "shapes", "layout"] "layout" (LayoutSpec.DifferAt p)

/-- Two sections have boxes and schedules that are related, and are the same otherwise. -/
structure SectionSpec.Related (B : IdMap (BoxSpec α) → IdMap (BoxSpec α) → Prop)
    (S : Option (Schedule α) → Option (Schedule α) → Prop) (s s' : SectionSpec α) : Prop where
  boxes : B s.boxes s'.boxes
  schedule : S s.schedule s'.schedule
  order : s.order = s'.order

/-- Two sections are the same but for a soft part. -/
def SectionSpec.SameBut : SectionPlace → SectionSpec α → SectionSpec α → Prop
  | .dimension boxId => Related (IdMap.ButOne boxId fun _ _ => True) Eq
  | .argument p => Related Eq (Option.Rel (Schedule.SameBut p))

/-- Two layouts have sections and schedules that are related. -/
structure LayoutSpec.Related (B : IdMap (SectionSpec α) → IdMap (SectionSpec α) → Prop)
    (S : Option (Schedule α) → Option (Schedule α) → Prop) (l l' : LayoutSpec α) : Prop where
  sections : B l.sections l'.sections
  schedule : S l.schedule l'.schedule

/-- Two layouts are the same but for a soft part. -/
def LayoutSpec.SameBut : LayoutPlace → LayoutSpec α → LayoutSpec α → Prop
  | .inSection id p => Related (IdMap.ButOne id (SectionSpec.SameBut p)) Eq
  | .argument p => Related Eq (Option.Rel (Schedule.SameBut p))

theorem LayoutSpec.SameBut.refl (p : LayoutPlace) (l : LayoutSpec α) : l.SameBut p l := by
  cases p with
  | inSection id p => exact ⟨IdMap.ButOne.refl _, rfl⟩
  | argument p => exact ⟨rfl, optionRel_refl (Schedule.SameBut.same p) _⟩

end

/-- Two documents are the same but for a soft part of their layouts. -/
structure Document.SameBut (p : LayoutPlace) (d d' : Document) : Prop where
  options : d.options = d'.options
  shapes : d.shapes = d'.shapes
  layout : d.layout.SameBut p d'.layout

namespace Document

open Node

variable (format : Format)

/-! ## Options and shapes -/

theorem stable_readOptions : Stable (readOptions format) := by
  refine stable_record ?_ _ _
  refine ⟨?_, ?_, ?_⟩
  · exact (stable_name format _).map fun _ _ h => by rw [h]
  · exact (stable_listOf (stable_name format _) format).map fun _ _ h => by rw [h]
  · exact (stable_pair format _).map fun _ _ h => by rw [h]

theorem stable_readShapes : Stable (readShapes format) :=
  stable_mapOf (stable_pair format _) format _

/-! ## Schedules -/

/-- A schedule is read from two trees when it is read from the values that they show. -/
theorem respects_readSchedule {R : Value Float → Value Float → Prop}
    {S : Schedule Float → Schedule Float → Prop}
    (h : ∀ v v', R v v' → Option.Rel S (Schedule.ofValue? v) (Schedule.ofValue? v')) :
    Respects R S (readSchedule format) := by
  intro n n' v v' hn hn' hv
  have hread : ∀ {m : Node} {w : Value Float}, m.Shows w →
      ∃ f, readSchedule format m = (Schedule.ofValue? w).elim (.error f) .ok := by
    intro m w hm
    refine ⟨.mismatch (.noAlternative "Responsive") (format.afterSpan m.place), ?_⟩
    rw [readSchedule, hm]
    cases h : Schedule.ofValue? w <;> simp only [bind, Except.bind, h] <;> rfl
  obtain ⟨f, hf⟩ := hread hn
  obtain ⟨f', hf'⟩ := hread hn'
  rw [hf, hf']
  exact Concur.of_optionRel (h v v' hv) f f'

theorem stable_readSchedule : Stable (readSchedule format) :=
  respects_readSchedule format fun v v' hv => by
    rw [hv]
    exact optionRel_refl (fun _ => rfl) _

/-- A schedule is never left open, so another argument does not make it so. -/
theorem respects_optional_readSchedule (p : ArgumentPlace) :
    Respects (Schedule.DifferAt p) (Option.Rel (Schedule.SameBut p))
      (Node.optional (readSchedule format)) := by
  refine (respects_readSchedule format fun _ _ => Schedule.ofValue?_rel).optional fun v v' hv => ?_
  cases hv with
  | uniform h => cases h; exact ⟨nofun, nofun⟩
  | perBreakpoint h => exact ⟨nofun, nofun⟩

/-! ## Boxes -/

/-- Whatever a tree shows, it can be read as the dimension of a box. -/
theorem respects_optional_readDimension :
    Respects (fun _ _ => True) (fun _ _ => True) (Node.optional readDimension) := by
  have hread : ∀ {m : Node} {w : Value Float}, m.Shows w →
      ∃ d, m.optional readDimension = .ok d := by
    intro m w hm
    have hdimension : readDimension m = .ok (Dimension.ofValue w) := by
      rw [readDimension, hm]
      rfl
    cases m with
    | atom a p =>
      cases a with
      | null => exact ⟨none, rfl⟩
      | bool | int | float | string | date | badNumber | badString =>
        exact ⟨_, congrArg (Except.map some) hdimension⟩
    | list | object | broken => exact ⟨_, congrArg (Except.map some) hdimension⟩
  intro n n' v v' hn hn' _
  obtain ⟨d, hd⟩ := hread hn
  obtain ⟨d', hd'⟩ := hread hn'
  rw [hd, hd']
  exact .ok trivial

theorem stable_readDimension : Stable readDimension := by
  rintro n n' v _ hn hn' rfl
  rw [readDimension, readDimension, hn, hn']
  exact Concur.refl _

theorem stable_readBox : Stable (readBox format) := by
  refine stable_record ?_ _ _
  exact stable_readDimension.optional.map fun _ _ h => by rw [h]

/-- **A box loads with any dimension.** -/
theorem respects_readBox : Respects BoxSpec.Differ (fun _ _ => True) (readBox format) := by
  refine respects_record (T := fun _ _ => True) ?_ trivial ?_ ?_ _
  · rfl
  · exact stable_readDimension.optional.map fun _ _ _ _ _ _ => trivial
  · exact fun _ => respects_optional_readDimension.map fun _ _ _ _ _ _ => trivial

/-! ## Sections -/

theorem stable_readSection : Stable (readSection format) := by
  refine stable_record ?_ _ _
  refine ⟨?_, ?_, ?_⟩
  · exact (stable_mapOf (stable_readBox format) format _).map fun _ _ h => by rw [h]
  · exact (stable_readSchedule format).optional.map fun _ _ h => by rw [h]
  · exact (stable_listOf (stable_text format) format).optional.map fun _ _ h => by rw [h]

/-- **A section differs in what comes of one field.** -/
theorem respects_readSection {name : String} {R : Value Float → Value Float → Prop}
    {B : IdMap (BoxSpec Float) → IdMap (BoxSpec Float) → Prop}
    {S : Option (Schedule Float) → Option (Schedule Float) → Prop} (hB : ∀ b, B b b)
    (hS : ∀ s, S s s)
    (hboxes : "boxes" = name →
      Respects R B (Node.mapOf format "a map keyed by id" (readBox format)))
    (hschedule : "transformations" = name → Respects R S (Node.optional (readSchedule format)))
    (horder : "order" ≠ name) :
    Respects (InRecord ["boxes", "transformations", "order"] name R) (SectionSpec.Related B S)
      (readSection format) := by
  refine respects_record (T := SectionSpec.Related B S) ?_ ⟨hB _, hS _, rfl⟩ ?_ ?_ _
  · rfl
  · refine ⟨?_, ?_, ?_⟩
    · refine (stable_mapOf (stable_readBox format) format _).map fun b c h s s' hs => ?_
      rw [h]
      exact ⟨hB c, hs.schedule, hs.order⟩
    · refine (stable_readSchedule format).optional.map fun b c h s s' hs => ?_
      rw [h]
      exact ⟨hs.boxes, hS c, hs.order⟩
    · refine (stable_listOf (stable_text format) format).optional.map fun b c h s s' hs => ?_
      exact ⟨hs.boxes, hs.schedule, h⟩
  · refine ⟨fun h => ?_, fun h => ?_, fun h => absurd h horder⟩
    · exact (hboxes h).map fun b c hbc s s' hs => ⟨hbc, hs.schedule, hs.order⟩
    · exact (hschedule h).map fun b c hbc s s' hs => ⟨hs.boxes, hbc, hs.order⟩

theorem respects_readSection_at (p : SectionPlace) :
    Respects (SectionSpec.DifferAt p) (SectionSpec.SameBut p) (readSection format) := by
  cases p with
  | dimension boxId =>
    refine respects_readSection format IdMap.ButOne.refl (fun _ => rfl) (fun _ => ?_)
      (fun h => absurd h (by decide)) (by decide)
    exact respects_mapOf (stable_readBox format) (respects_readBox format) format _ boxId
  | argument p =>
    exact respects_readSection format (fun _ => rfl) (optionRel_refl (Schedule.SameBut.same p))
      (fun h => absurd h (by decide)) (fun _ => respects_optional_readSchedule format p) (by decide)

/-! ## Layouts -/

theorem stable_readLayout : Stable (readLayout format) := by
  refine stable_record ?_ _ _
  refine ⟨?_, ?_⟩
  · exact (stable_mapOf (stable_readSection format) format _).map fun _ _ h => by rw [h]
  · exact (stable_readSchedule format).optional.map fun _ _ h => by rw [h]

/-- **A layout differs in what comes of one field.** -/
theorem respects_readLayout {name : String} {R : Value Float → Value Float → Prop}
    {B : IdMap (SectionSpec Float) → IdMap (SectionSpec Float) → Prop}
    {S : Option (Schedule Float) → Option (Schedule Float) → Prop} (hB : ∀ b, B b b)
    (hS : ∀ s, S s s)
    (hsections : "sections" = name →
      Respects R B (Node.mapOf format "a map keyed by id" (readSection format)))
    (hschedule : "transformations" = name → Respects R S (Node.optional (readSchedule format))) :
    Respects (InRecord ["sections", "transformations"] name R) (LayoutSpec.Related B S)
      (readLayout format) := by
  refine respects_record (T := LayoutSpec.Related B S) ?_ ⟨hB _, hS _⟩ ?_ ?_ _
  · rfl
  · refine ⟨?_, ?_⟩
    · refine (stable_mapOf (stable_readSection format) format _).map fun b c h l l' hl => ?_
      rw [h]
      exact ⟨hB c, hl.schedule⟩
    · refine (stable_readSchedule format).optional.map fun b c h l l' hl => ?_
      rw [h]
      exact ⟨hl.sections, hS c⟩
  · refine ⟨fun h => ?_, fun h => ?_⟩
    · exact (hsections h).map fun b c hbc l l' hl => ⟨hbc, hl.schedule⟩
    · exact (hschedule h).map fun b c hbc l l' hl => ⟨hl.sections, hbc⟩

theorem respects_readLayout_at (p : LayoutPlace) :
    Respects (LayoutSpec.DifferAt p) (LayoutSpec.SameBut p) (readLayout format) := by
  cases p with
  | inSection id p =>
    refine respects_readLayout format IdMap.ButOne.refl (fun _ => rfl) (fun _ => ?_)
      (fun h => absurd h (by decide))
    exact respects_mapOf (stable_readSection format) (respects_readSection_at format p) format _ id
  | argument p =>
    exact respects_readLayout format (fun _ => rfl) (optionRel_refl (Schedule.SameBut.same p))
      (fun h => absurd h (by decide)) fun _ => respects_optional_readSchedule format p

/-! ## Documents -/

/-- **Documents that differ in a soft part** load as layouts that differ in that part, or fail both
to load. -/
theorem respects_readDocument (p : LayoutPlace) :
    Respects (DifferAt p) (SameBut p) (readDocument format) := by
  refine respects_record (T := SameBut p) ?_ ⟨rfl, rfl, LayoutSpec.SameBut.refl p _⟩ ?_ ?_ _
  · rfl
  · refine ⟨?_, ?_, ?_⟩
    · refine (stable_readOptions format).map fun b c h d d' hd => ?_
      exact ⟨h, hd.shapes, hd.layout⟩
    · refine (stable_readShapes format).map fun b c h d d' hd => ?_
      exact ⟨hd.options, h, hd.layout⟩
    · refine (stable_readLayout format).map fun b c h d d' hd => ?_
      rw [h]
      exact ⟨hd.options, hd.shapes, LayoutSpec.SameBut.refl p c⟩
  · have hsolver : "solver" ≠ "layout" := by decide
    have hshapes : "shapes" ≠ "layout" := by decide
    refine ⟨fun h => absurd h hsolver, fun h => absurd h hshapes, fun _ => ?_⟩
    exact (respects_readLayout_at format p).map fun b c h d d' hd => ⟨hd.options, hd.shapes, h⟩

/-! ## Loads do not fail for a soft part -/

/-- **A soft argument never fails a load.**  A value with finite numbers and without repeated keys
is read as what is written with it, whichever soft part it stands for, and kept when nothing is
written with it.  Any other value in its place, in a tree that shows a document, changes neither
whether the document loads nor any other part of what is loaded. -/
theorem soft_arguments :
    (∀ v : Value Float, v.isPlain = true →
      ReadSoftly Target.Written .malformed v (Target.ofValue v) ∧
      ReadSoftly Offset.Written .malformed v (Offset.ofValue v) ∧
      ReadSoftly (Param.Written AnchorRef.Written) .malformed v
        (Param.ofValue AnchorRef.ofValue? v) ∧
      ReadSoftly (Param.Written BoxRef.Written) .malformed v (Param.ofValue BoxRef.ofValue? v) ∧
      ReadSoftly (Param.Written Value.IsNumber) .malformed v (Param.ofValue Value.number? v) ∧
      ReadSoftly (Param.Written Value.IsString) .malformed v (Param.ofValue Value.string? v) ∧
      ReadSoftly Dimension.Written .malformed v (Dimension.ofValue v)) ∧
    ∀ (format : Format) (p : LayoutPlace) (n n' : Node) (v v' : Value Float),
      n.Shows v → n'.Shows v' → DifferAt p v v' →
        Concur (SameBut p) (readDocument format n) (readDocument format n') := by
  refine ⟨fun v hplain => ⟨?_, ?_, ?_, ?_, ?_, ?_, ?_⟩, fun format p n n' v v' hn hn' h => ?_⟩
  · exact Target.readSoftly hplain
  · exact Offset.readSoftly hplain
  · exact Param.readSoftly (fun _ => AnchorRef.ofValue?_eq_some_iff hplain) hplain
  · exact Param.readSoftly (fun _ => BoxRef.ofValue?_eq_some_iff hplain) hplain
  · exact Param.readSoftly (fun _ => Value.number?_eq_some_iff) hplain
  · exact Param.readSoftly (fun _ => Value.string?_eq_some_iff) hplain
  · exact Dimension.readSoftly hplain
  · exact respects_readDocument format p hn hn' h

/-- The fields of a coordinate and of an anchor reference, all in one object. -/
def mixedFields : Value Float :=
  .object [("x", .int 1), ("y", .int 2), ("boxId", .string "a"), ("anchor", .string "Top")]

/-- A document with one box, which is moved onto the origin. -/
def movedBox (source : Value Float) : Value Float :=
  .object [("layout", .object [("sections", .object [("main", .object [
    ("boxes", .object [("a", .object [("dimension", .string "card")])]),
    ("transformations", .list [.object [
      ("moveTo", .object [("from", source), ("to", .int 0)])]])])])])]

/-- A reference with a coordinate's fields beside its own is one, and a document loads with a number
in the place of a reference. -/
theorem soft_arguments_movedBox :
    Target.Written mixedFields (Target.ofValue mixedFields) ∧
    ∃ d d', readDocument .json (Node.ofValue (movedBox mixedFields)) = .ok d ∧
      readDocument .json (Node.ofValue (movedBox (.int 7))) = .ok d' ∧
      SameBut (.inSection "main" (.argument ⟨none, 0, "from"⟩)) d d' := by
  constructor
  · have hplain : mixedFields.isPlain = true := by decide
    have hanchor : Target.Written mixedFields (.anchor ⟨"a", "Top"⟩) :=
      .anchor (.object (by simp) (by simp))
    rcases (soft_arguments.1 mixedFields hplain).1 with h | ⟨hnone, -⟩
    · exact h
    · exact absurd hanchor (hnone _)
  · have hdiffer : DifferAt (.inSection "main" (.argument ⟨none, 0, "from"⟩))
        (movedBox mixedFields) (movedBox (.int 7)) := by
      have hargs : InRecord ["from", "to", "gap"] "from" (fun _ _ => True)
          (.object [("from", mixedFields), ("to", .int 0)])
          (.object [("from", .int 7), ("to", .int 0)]) :=
        .field (.head ⟨rfl, rfl, trivial⟩ _)
      have hschedule : Schedule.DifferAt ⟨none, 0, "from"⟩
          (.list [.object [("moveTo", .object [("from", mixedFields), ("to", .int 0)])]])
          (.list [.object [("moveTo", .object [("from", .int 7), ("to", .int 0)])]]) :=
        .uniform (.intro rfl (.intro "moveTo" hargs))
      refine .field (.head ⟨rfl, rfl, ?_⟩ [])
      refine .field (.head ⟨rfl, rfl, ?_⟩ [])
      refine .object (.head ⟨rfl, rfl, ?_⟩ [])
      exact .field (.tail _ (.head ⟨rfl, rfl, hschedule⟩ []))
    have h := soft_arguments.2 .json _ _ _ _ _ (Node.shows_ofValue _) (Node.shows_ofValue _) hdiffer
    obtain ⟨d, hd⟩ : ∃ d, readDocument .json (Node.ofValue (movedBox mixedFields)) = .ok d :=
      ⟨_, rfl⟩
    rw [hd] at h
    generalize readDocument .json (Node.ofValue (movedBox (.int 7))) = x at h ⊢
    cases h with
    | ok h => exact ⟨d, _, hd, rfl, h⟩

end Document

end GridLayout
