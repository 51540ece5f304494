import GridLayout.Document.Soft
import Mathlib.Data.List.Nodup

/-!
# Arguments of any shape

The arguments of an operation and the dimension of a box are read from any value at all.  What a
value says is one thing: `AnchorRef.Written`, `Target.Written` and the like relate a value to what
is written with it, shape by shape and without regard to the order in which shapes are tried.  How
it is read is another.  `ReadSoftly` ties the two: a value is read as what is written with it, and a
value with which nothing is written is kept.

Kept values have their fields ordered by key.  For a value of JSON without repeated keys,
`Value.isPlain`, that is the only change (`Value.alike_canonical`).

* `Value.uniqueField?_eq_some_iff`: without repeated keys a field is a member of the list of fields.
* `Coordinate.ofValue?_eq_some_iff` and its siblings: the readers of plain parts know exactly the
  shapes they ought to.
* `Target.readSoftly`, `Offset.readSoftly`, `Param.readSoftly`, `Dimension.readSoftly`: the readers
  of soft arguments.
-/

namespace GridLayout

variable {α : Type}

/-! ## Fields -/

namespace Value

/-- A field of a new key is put somewhere into a list of fields. -/
theorem exists_insertField_eq {key : String} {v : Value α} {l : List (String × Value α)}
    (h : key ∉ l.map Prod.fst) :
    ∃ before after, l = before ++ after ∧ insertField key v l = before ++ (key, v) :: after := by
  induction l with
  | nil => exact ⟨[], [], rfl, rfl⟩
  | cons e rest ih =>
    obtain ⟨k, w⟩ := e
    rw [List.map_cons, List.mem_cons, not_or] at h
    rw [insertField, if_neg h.1]
    by_cases hlt : key < k
    · rw [if_pos hlt]
      exact ⟨[], (k, w) :: rest, rfl, rfl⟩
    · rw [if_neg hlt]
      obtain ⟨before, after, rfl, hinsert⟩ := ih h.2
      exact ⟨(k, w) :: before, after, rfl, by rw [hinsert, List.cons_append]⟩

theorem mem_of_uniqueField? {fields : List (String × Value α)} {key : String} {v : Value α}
    (h : uniqueField? fields key = some v) : (key, v) ∈ fields := by
  rw [uniqueField?] at h
  split at h
  · next e hfilter =>
    have hmem : e ∈ fields.filter fun e => e.1 == key := by
      rw [hfilter]
      exact List.mem_singleton_self e
    obtain ⟨hfields, hkey⟩ := List.mem_filter.mp hmem
    rw [← Option.some.inj h, ← eq_of_beq hkey]
    exact hfields
  · exact nomatch h

/-- **Without repeated keys** a field occurs once when it occurs. -/
theorem uniqueField?_eq_some_iff {fields : List (String × Value α)} {key : String} {v : Value α}
    (hnodup : (fields.map Prod.fst).Nodup) :
    uniqueField? fields key = some v ↔ (key, v) ∈ fields := by
  refine ⟨mem_of_uniqueField?, fun hmem => ?_⟩
  have hfilter : (fields.filter fun e => e.1 == key) = [(key, v)] := by
    induction fields with
    | nil => exact absurd hmem List.not_mem_nil
    | cons e rest ih =>
      rw [List.map_cons, List.nodup_cons] at hnodup
      rcases List.mem_cons.mp hmem with rfl | hrest
      · have hnone : (rest.filter fun e => e.1 == key) = [] := by
          rw [List.filter_eq_nil_iff]
          intro d hd heq
          exact hnodup.1 (List.mem_map.mpr ⟨d, hd, eq_of_beq heq⟩)
        rw [List.filter_cons, if_pos (beq_self_eq_true key), hnone]
      · have hne : ¬ (e.1 == key) = true := by
          intro heq
          exact hnodup.1 (List.mem_map.mpr ⟨_, hrest, (eq_of_beq heq).symm⟩)
        rw [List.filter_cons, if_neg hne, ih hnodup.2 hrest]
  rw [uniqueField?, hfilter]

/-- Two fields of different keys are all there is of a list of two. -/
theorem perm_pair {fields : List (String × Value α)} (hlength : fields.length = 2)
    {k l : String} (hkl : k ≠ l) {v w : Value α} (hv : (k, v) ∈ fields) (hw : (l, w) ∈ fields) :
    fields.Perm [(k, v), (l, w)] := by
  obtain ⟨e, f, rfl⟩ := List.length_eq_two.mp hlength
  simp only [List.mem_cons, List.not_mem_nil, or_false] at hv hw
  rcases hv with rfl | rfl
  · rcases hw with heq | rfl
    · exact absurd (congrArg Prod.fst heq).symm hkl
    · exact List.Perm.refl _
  · rcases hw with rfl | heq
    · exact List.Perm.swap _ _ []
    · exact absurd (congrArg Prod.fst heq).symm hkl

/-- Each of two fields of different keys occurs once. -/
theorem uniqueField?_of_perm {fields : List (String × Value α)} {k l : String} (hkl : k ≠ l)
    {v w : Value α} (h : fields.Perm [(k, v), (l, w)]) :
    uniqueField? fields k = some v ∧ uniqueField? fields l = some w := by
  have hnodup : (fields.map Prod.fst).Nodup := by
    rw [(h.map Prod.fst).nodup_iff]
    simpa using hkl
  rw [uniqueField?_eq_some_iff hnodup, uniqueField?_eq_some_iff hnodup, h.mem_iff, h.mem_iff]
  exact ⟨List.mem_cons_self, List.mem_cons_of_mem _ List.mem_cons_self⟩

/-! ## Values that are alike -/

mutual

/-- Two values are the same but for the order in which objects list their fields. -/
inductive Alike {α : Type} : Value α → Value α → Prop
  | refl (v : Value α) : Alike v v
  | list {items items' : List (Value α)} (h : AlikeItems items items') :
    Alike (.list items) (.list items')
  | object {fields fields' : List (String × Value α)} (h : AlikeFields fields fields') :
    Alike (.object fields) (.object fields')

/-- Two lists have items that are alike, one by one. -/
inductive AlikeItems {α : Type} : List (Value α) → List (Value α) → Prop
  | nil : AlikeItems [] []
  | cons {v w : Value α} {items items' : List (Value α)} (hv : Alike v w)
    (h : AlikeItems items items') : AlikeItems (v :: items) (w :: items')

/-- Two objects have fields that are alike, in whatever order: the first field of the one stands
anywhere in the other. -/
inductive AlikeFields {α : Type} : List (String × Value α) → List (String × Value α) → Prop
  | nil : AlikeFields [] []
  | cons {key : String} {v w : Value α} {fields before after : List (String × Value α)}
    (hv : Alike v w) (h : AlikeFields fields (before ++ after)) :
    AlikeFields ((key, v) :: fields) (before ++ (key, w) :: after)

end

end Value

/-! ## What is written with a value -/

/-- An anchor reference is written as a list of two strings, or as an object with the strings
`boxId` and `anchor` and whatever else. -/
inductive AnchorRef.Written : Value α → AnchorRef → Prop
  | list (boxId anchor : String) : Written (.list [.string boxId, .string anchor]) ⟨boxId, anchor⟩
  | object {fields : List (String × Value α)} {boxId anchor : String}
    (hbox : ("boxId", .string boxId) ∈ fields) (hanchor : ("anchor", .string anchor) ∈ fields) :
    Written (.object fields) ⟨boxId, anchor⟩

/-- A box reference is written as a list of one string, or as an object with the string `boxId` and
whatever else. -/
inductive BoxRef.Written : Value α → BoxRef → Prop
  | list (boxId : String) : Written (.list [.string boxId]) ⟨boxId⟩
  | object {fields : List (String × Value α)} {boxId : String}
    (hbox : ("boxId", .string boxId) ∈ fields) : Written (.object fields) ⟨boxId⟩

/-- A text is written as a string. -/
inductive Value.IsString : Value α → String → Prop
  | string (s : String) : IsString (.string s) s

/-- An argument is written when its value is. -/
inductive Param.Written {β : Type} (shape : Value α → β → Prop) : Value α → Param α β → Prop
  | valid {v : Value α} {b : β} (h : shape v b) : Written shape v (.valid b)

/-- A dimension is written as a string, or as an object of any entries. -/
inductive Dimension.Written : Value α → Dimension α → Prop
  | uniform (shape : String) : Written (.string shape) (.uniform shape)
  | perBreakpoint {fields entries : List (String × Value α)}
    (h : Value.AlikeFields fields entries) : Written (.object fields) (.perBreakpoint entries)

section

variable [Scalar α]

/-- A value is a number. -/
inductive Value.IsNumber : Value α → α → Prop
  | int (n : Int) : IsNumber (.int n) (Scalar.ofInt n)
  | float (x : α) : IsNumber (.float x) x

/-- A coordinate is written as a list of two numbers, or as an object of exactly the numbers `x` and
`y`. -/
inductive Coordinate.Written : Value α → Coordinate α → Prop
  | list {v w : Value α} {x y : α} (hx : v.IsNumber x) (hy : w.IsNumber y) :
    Written (.list [v, w]) ⟨x, y⟩
  | object {fields : List (String × Value α)} {v w : Value α} {x y : α} (hx : v.IsNumber x)
    (hy : w.IsNumber y) (h : fields.Perm [("x", v), ("y", w)]) : Written (.object fields) ⟨x, y⟩

/-- A target is written as a coordinate, a number or an anchor reference. -/
inductive Target.Written : Value α → Target α → Prop
  | point {v : Value α} {c : Coordinate α} (h : c.Written v) : Written v (.point c)
  | value {v : Value α} {x : α} (h : v.IsNumber x) : Written v (.value x)
  | anchor {v : Value α} {r : AnchorRef} (h : r.Written v) : Written v (.anchor r)

/-- A displacement is written as a coordinate or a number. -/
inductive Offset.Written : Value α → Offset α → Prop
  | vector {v : Value α} {c : Coordinate α} (h : c.Written v) : Written v (.vector c)
  | uniform {v : Value α} {x : α} (h : v.IsNumber x) : Written v (.uniform x)

end

/-- A value is read softly as `t`: `t` is what is written with it, or nothing is written with it and
`t` holds the value itself, with fields in some order. -/
def ReadSoftly {β : Type} (written : Value α → β → Prop) (malformed : Value α → β) (v : Value α)
    (t : β) : Prop :=
  written v t ∨ (∀ t, ¬ written v t) ∧ ∃ w, t = malformed w ∧ v.Alike w

variable [Scalar α]

/-! ## Kept values -/

namespace Value

mutual

/-- Every number in a value is finite, and no object names a key twice. -/
def isPlain : Value α → Bool
  | .float x => Scalar.isFinite x
  | .list items => isPlainItems items
  | .object fields => decide (fields.map Prod.fst).Nodup && isPlainFields fields
  | _ => true

/-- All items of a list are plain. -/
def isPlainItems : List (Value α) → Bool
  | [] => true
  | v :: rest => isPlain v && isPlainItems rest

/-- All values of an object are plain. -/
def isPlainFields : List (String × Value α) → Bool
  | [] => true
  | (_, v) :: rest => isPlain v && isPlainFields rest

end

theorem nodup_of_isPlain {fields : List (String × Value α)}
    (h : (Value.object fields).isPlain = true) : (fields.map Prod.fst).Nodup := by
  rw [isPlain, Bool.and_eq_true, decide_eq_true_iff] at h
  exact h.1

/-- A kept object has no key that was not there. -/
theorem mem_keys_of_canonicalFields {key : String} :
    ∀ {fields : List (String × Value α)}, key ∈ (canonicalFields fields).map Prod.fst →
      key ∈ fields.map Prod.fst := by
  intro fields
  induction fields with
  | nil => exact id
  | cons e rest ih =>
    obtain ⟨k, v⟩ := e
    intro h
    rw [canonicalFields] at h
    split at h
    · exact List.mem_cons_of_mem _ (ih h)
    · next hany =>
      have hnew : k ∉ (canonicalFields rest).map Prod.fst := by
        intro hmem
        obtain ⟨e, he, heq⟩ := List.mem_map.mp hmem
        exact hany (List.any_eq_true.mpr ⟨e, he, beq_iff_eq.mpr heq⟩)
      obtain ⟨before, after, hsplit, hinsert⟩ :=
        exists_insertField_eq (v := canonical v) hnew
      rw [hinsert, List.map_append, List.map_cons, List.mem_append, List.mem_cons] at h
      rw [hsplit, List.map_append, List.mem_append] at ih
      rw [List.map_cons, List.mem_cons]
      rcases h with h | h | h
      · exact Or.inr (ih (Or.inl h))
      · exact Or.inl h
      · exact Or.inr (ih (Or.inr h))

mutual

/-- **A value of JSON is kept as it is**, but for the order of fields. -/
theorem alike_canonical : ∀ {v : Value α}, v.isPlain = true → v.Alike v.canonical
  | .null, _ => .refl _
  | .bool _, _ => .refl _
  | .int _, _ => .refl _
  | .float x, h => by
    rw [isPlain] at h
    rw [canonical, if_pos h]
    exact .refl _
  | .string _, _ => .refl _
  | .list items, h => by
    rw [isPlain] at h
    rw [canonical]
    exact .list (alikeItems_canonical h)
  | .object fields, h => by
    rw [isPlain, Bool.and_eq_true, decide_eq_true_iff] at h
    rw [canonical]
    exact .object (alikeFields_canonical h.1 h.2)

theorem alikeItems_canonical : ∀ {items : List (Value α)}, isPlainItems items = true →
    AlikeItems items (canonicalItems items)
  | [], _ => .nil
  | v :: rest, h => by
    rw [isPlainItems, Bool.and_eq_true] at h
    rw [canonicalItems]
    exact .cons (alike_canonical h.1) (alikeItems_canonical h.2)

theorem alikeFields_canonical : ∀ {fields : List (String × Value α)},
    (fields.map Prod.fst).Nodup → isPlainFields fields = true →
      AlikeFields fields (canonicalFields fields)
  | [], _, _ => .nil
  | (k, v) :: rest, hnodup, h => by
    rw [List.map_cons, List.nodup_cons] at hnodup
    rw [isPlainFields, Bool.and_eq_true] at h
    have hnew : k ∉ (canonicalFields rest).map Prod.fst := fun hmem =>
      hnodup.1 (mem_keys_of_canonicalFields hmem)
    have hany : ¬ (canonicalFields rest).any (fun e => e.1 == k) = true := by
      rw [List.any_eq_true]
      rintro ⟨e, he, heq⟩
      exact hnew (List.mem_map.mpr ⟨e, he, beq_iff_eq.mp heq⟩)
    have hrest := alikeFields_canonical hnodup.2 h.2
    obtain ⟨before, after, hsplit, hinsert⟩ := exists_insertField_eq (v := canonical v) hnew
    rw [canonicalFields, if_neg hany, hinsert]
    rw [hsplit] at hrest
    exact .cons (alike_canonical h.1) hrest

end

/-! ## Plain parts -/

theorem number?_eq_some_iff {v : Value α} {x : α} : v.number? = some x ↔ v.IsNumber x := by
  constructor
  · intro h
    cases v with
    | int n =>
      obtain rfl := Option.some.inj h
      exact .int n
    | float y =>
      obtain rfl := Option.some.inj h
      exact .float y
    | null | bool | string | list | object => exact nomatch h
  · intro h
    cases h <;> rfl

omit [Scalar α] in
theorem string?_eq_some_iff {v : Value α} {s : String} : v.string? = some s ↔ v.IsString s := by
  constructor
  · intro h
    cases v with
    | string t =>
      obtain rfl := Option.some.inj h
      exact .string t
    | null | bool | int | float | list | object => exact nomatch h
  · intro h
    cases h
    rfl

end Value

/-- **A coordinate is read** when one is written, keys in either order and no others. -/
theorem Coordinate.ofValue?_eq_some_iff {v : Value α} {c : Coordinate α} :
    Coordinate.ofValue? v = some c ↔ c.Written v := by
  constructor
  · intro h
    unfold Coordinate.ofValue? at h
    split at h
    · obtain ⟨x, hx, h⟩ := Option.bind_eq_some_iff.mp h
      obtain ⟨y, hy, h⟩ := Option.bind_eq_some_iff.mp h
      rw [← Option.some.inj h]
      exact .list (Value.number?_eq_some_iff.mp hx) (Value.number?_eq_some_iff.mp hy)
    · split at h
      · next hlength =>
        obtain ⟨v, hv, h⟩ := Option.bind_eq_some_iff.mp h
        obtain ⟨w, hw, h⟩ := Option.bind_eq_some_iff.mp h
        obtain ⟨x, hx, h⟩ := Option.bind_eq_some_iff.mp h
        obtain ⟨y, hy, h⟩ := Option.bind_eq_some_iff.mp h
        rw [← Option.some.inj h]
        exact .object (Value.number?_eq_some_iff.mp hx) (Value.number?_eq_some_iff.mp hy)
          (Value.perm_pair hlength (by decide) (Value.mem_of_uniqueField? hv)
            (Value.mem_of_uniqueField? hw))
      · exact nomatch h
    · exact nomatch h
  · intro h
    cases h with
    | list hx hy =>
      simp [Coordinate.ofValue?, Value.number?_eq_some_iff.mpr hx, Value.number?_eq_some_iff.mpr hy]
    | object hx hy hperm =>
      obtain ⟨hv, hw⟩ := Value.uniqueField?_of_perm (by decide) hperm
      simp [Coordinate.ofValue?, hperm.length_eq, hv, hw, Value.number?_eq_some_iff.mpr hx,
        Value.number?_eq_some_iff.mpr hy]

/-- **An anchor reference is read** when one is written, whatever else an object holds. -/
theorem AnchorRef.ofValue?_eq_some_iff {v : Value α} (hplain : v.isPlain = true)
    {r : AnchorRef} : AnchorRef.ofValue? v = some r ↔ r.Written v := by
  constructor
  · intro h
    unfold AnchorRef.ofValue? at h
    split at h
    · obtain ⟨boxId, hbox, h⟩ := Option.bind_eq_some_iff.mp h
      obtain ⟨anchor, hanchor, h⟩ := Option.bind_eq_some_iff.mp h
      rw [← Option.some.inj h]
      cases Value.string?_eq_some_iff.mp hbox
      cases Value.string?_eq_some_iff.mp hanchor
      exact .list boxId anchor
    · obtain ⟨v, hv, h⟩ := Option.bind_eq_some_iff.mp h
      obtain ⟨w, hw, h⟩ := Option.bind_eq_some_iff.mp h
      obtain ⟨boxId, hbox, h⟩ := Option.bind_eq_some_iff.mp h
      obtain ⟨anchor, hanchor, h⟩ := Option.bind_eq_some_iff.mp h
      rw [← Option.some.inj h]
      cases Value.string?_eq_some_iff.mp hbox
      cases Value.string?_eq_some_iff.mp hanchor
      exact .object (Value.mem_of_uniqueField? hv) (Value.mem_of_uniqueField? hw)
    · exact nomatch h
  · intro h
    cases h with
    | list boxId anchor => rfl
    | object hbox hanchor =>
      have hnodup := Value.nodup_of_isPlain hplain
      simp [AnchorRef.ofValue?, (Value.uniqueField?_eq_some_iff hnodup).mpr hbox,
        (Value.uniqueField?_eq_some_iff hnodup).mpr hanchor, Value.string?]

/-- **A box reference is read** when one is written, whatever else an object holds. -/
theorem BoxRef.ofValue?_eq_some_iff {v : Value α} (hplain : v.isPlain = true) {r : BoxRef} :
    BoxRef.ofValue? v = some r ↔ r.Written v := by
  constructor
  · intro h
    unfold BoxRef.ofValue? at h
    split at h
    · obtain ⟨boxId, hbox, h⟩ := Option.bind_eq_some_iff.mp h
      rw [← Option.some.inj h]
      cases Value.string?_eq_some_iff.mp hbox
      exact .list boxId
    · obtain ⟨v, hv, h⟩ := Option.bind_eq_some_iff.mp h
      obtain ⟨boxId, hbox, h⟩ := Option.bind_eq_some_iff.mp h
      rw [← Option.some.inj h]
      cases Value.string?_eq_some_iff.mp hbox
      exact .object (Value.mem_of_uniqueField? hv)
    · exact nomatch h
  · intro h
    cases h with
    | list boxId => rfl
    | object hbox =>
      simp [BoxRef.ofValue?,
        (Value.uniqueField?_eq_some_iff (Value.nodup_of_isPlain hplain)).mpr hbox, Value.string?]

/-! ## Soft arguments -/

variable {v : Value α}

/-- **A target is read as what is written**, or kept. -/
theorem Target.readSoftly (hplain : v.isPlain = true) :
    ReadSoftly Target.Written .malformed v (Target.ofValue v) := by
  unfold Target.ofValue
  cases hpoint : Coordinate.ofValue? v with
  | some c => exact Or.inl (.point (Coordinate.ofValue?_eq_some_iff.mp hpoint))
  | none =>
    cases hvalue : v.number? with
    | some x => exact Or.inl (.value (Value.number?_eq_some_iff.mp hvalue))
    | none =>
      cases hanchor : AnchorRef.ofValue? v with
      | some r => exact Or.inl (.anchor ((AnchorRef.ofValue?_eq_some_iff hplain).mp hanchor))
      | none =>
        refine Or.inr ⟨fun t h => ?_, _, rfl, Value.alike_canonical hplain⟩
        cases h with
        | point h => exact nomatch hpoint.symm.trans (Coordinate.ofValue?_eq_some_iff.mpr h)
        | value h => exact nomatch hvalue.symm.trans (Value.number?_eq_some_iff.mpr h)
        | anchor h =>
          exact nomatch hanchor.symm.trans ((AnchorRef.ofValue?_eq_some_iff hplain).mpr h)

/-- **A displacement is read as what is written**, or kept. -/
theorem Offset.readSoftly (hplain : v.isPlain = true) :
    ReadSoftly Offset.Written .malformed v (Offset.ofValue v) := by
  unfold Offset.ofValue
  cases hvector : Coordinate.ofValue? v with
  | some c => exact Or.inl (.vector (Coordinate.ofValue?_eq_some_iff.mp hvector))
  | none =>
    cases huniform : v.number? with
    | some x => exact Or.inl (.uniform (Value.number?_eq_some_iff.mp huniform))
    | none =>
      refine Or.inr ⟨fun t h => ?_, _, rfl, Value.alike_canonical hplain⟩
      cases h with
      | vector h => exact nomatch hvector.symm.trans (Coordinate.ofValue?_eq_some_iff.mpr h)
      | uniform h => exact nomatch huniform.symm.trans (Value.number?_eq_some_iff.mpr h)

/-- **An argument is read as what is written**, or kept, when its reader knows the shape. -/
theorem Param.readSoftly {β : Type} {read : Value α → Option β} {shape : Value α → β → Prop}
    (hread : ∀ b, read v = some b ↔ shape v b) (hplain : v.isPlain = true) :
    ReadSoftly (Param.Written shape) .malformed v (Param.ofValue read v) := by
  unfold Param.ofValue
  cases hv : read v with
  | some b => exact Or.inl (.valid ((hread b).mp hv))
  | none =>
    refine Or.inr ⟨fun t h => ?_, _, rfl, Value.alike_canonical hplain⟩
    cases h with
    | valid h => exact nomatch hv.symm.trans ((hread _).mpr h)

/-- **A dimension is read as what is written**, or kept. -/
theorem Dimension.readSoftly (hplain : v.isPlain = true) :
    ReadSoftly Dimension.Written .malformed v (Dimension.ofValue v) := by
  have hother : (∀ t, ¬ Dimension.Written v t) →
      ReadSoftly Dimension.Written .malformed v (.malformed v.canonical) := fun h =>
    Or.inr ⟨h, _, rfl, Value.alike_canonical hplain⟩
  cases v with
  | string shape => exact Or.inl (.uniform shape)
  | object fields =>
    rw [Value.isPlain, Bool.and_eq_true, decide_eq_true_iff] at hplain
    exact Or.inl (.perBreakpoint (Value.alikeFields_canonical hplain.1 hplain.2))
  | null | bool | int | float | list => exact hother fun t h => nomatch h

end GridLayout
