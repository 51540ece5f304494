import GridLayout.Document.Record
import GridLayout.Document.Soft
import GridLayout.Proofs.Outcomes
import Mathlib.Data.List.Forall2

/-!
# What is read depends on the values that a tree shows

A tree comes with the places of its parts, and the places only matter to what is said about a fault.
A tree `Shows` a value when it is whole.  `Respects` speaks of a reader and two trees that show
values related in some way: the reader fails on both, or comes to related things.  `Stable` is the
case where the two values are the same.

* `Node.shows_list`, `Node.fields_of_shows`: the parts of a tree that shows a list or an object.
* `Node.shows_ofValue`: every value is shown by some tree.
* `Node.skip_of_shows`: a tree that shows a value can be passed over.
* `Node.stable_number`, `Node.stable_text`, `Node.stable_pair`, `Node.stable_name`: the readers of
  single values, pairs and names.
-/

namespace GridLayout

/-! ## Trees that are whole -/

namespace Node

/-- A tree is whole, and this is the value it stands for. -/
def Shows (n : Node) (v : Value Float) : Prop := n.raw = .ok v

/-- A field is whole, with this key and this value. -/
def ShowsField (f : Key × Node) (e : String × Value Float) : Prop :=
  f.1.text = .ok e.1 ∧ f.2.Shows e.2

theorem endValue_eq_ok_iff {ending : Option Break} : endValue ending = .ok () ↔ ending = none := by
  cases ending with
  | none => exact ⟨fun _ => rfl, fun _ => rfl⟩
  | some b => exact ⟨fun h => (nomatch h), fun h => (nomatch h)⟩

theorem shows_of_rawItems {items : List Node} :
    ∀ {vs : List (Value Float)}, rawItems items = .ok vs → List.Forall₂ Shows items vs := by
  induction items with
  | nil =>
    intro vs h
    rw [← Except.ok.inj h]
    exact .nil
  | cons item rest ih =>
    intro vs h
    obtain ⟨v, hv, h⟩ := bind_eq_ok_iff.mp h
    obtain ⟨ws, hws, h⟩ := bind_eq_ok_iff.mp h
    rw [← Except.ok.inj h]
    exact .cons hv (ih hws)

theorem shows_of_rawFields {fields : List (Key × Node)} :
    ∀ {es : List (String × Value Float)}, rawFields fields = .ok es →
      List.Forall₂ ShowsField fields es := by
  induction fields with
  | nil =>
    intro es h
    rw [← Except.ok.inj h]
    exact .nil
  | cons field rest ih =>
    intro es h
    obtain ⟨k, hk, h⟩ := bind_eq_ok_iff.mp h
    obtain ⟨v, hv, h⟩ := bind_eq_ok_iff.mp h
    obtain ⟨ds, hds, h⟩ := bind_eq_ok_iff.mp h
    rw [← Except.ok.inj h]
    exact .cons ⟨hk, hv⟩ (ih hds)

/-- The trees that are whole, with what they show. -/
inductive View : Node → Value Float → Prop
  | atom {a : Atom} {v : Value Float} (p : Place) (h : rawAtom a = .ok v) : View (.atom a p) v
  | list {items : List Node} {vs : List (Value Float)} {p : Place} (hlevel : checkLevel p = .ok ())
    (h : List.Forall₂ Shows items vs) : View (.list items none p) (.list vs)
  | object {fields : List (Key × Node)} {es : List (String × Value Float)} {p : Place}
    (hlevel : checkLevel p = .ok ()) (h : List.Forall₂ ShowsField fields es) :
    View (.object fields none p) (.object es)

/-- **A tree that shows a value** is an atom, or is made of trees that show its parts. -/
theorem view_of_shows {n : Node} {v : Value Float} (h : n.Shows v) : View n v := by
  cases n with
  | atom a p => exact .atom p h
  | list items ending p =>
    obtain ⟨_, hlevel, h⟩ := bind_eq_ok_iff.mp h
    obtain ⟨vs, hvs, h⟩ := bind_eq_ok_iff.mp h
    obtain ⟨_, hending, h⟩ := bind_eq_ok_iff.mp h
    obtain rfl := endValue_eq_ok_iff.mp hending
    rw [← Except.ok.inj h]
    exact .list hlevel (shows_of_rawItems hvs)
  | object fields ending p =>
    obtain ⟨_, hlevel, h⟩ := bind_eq_ok_iff.mp h
    obtain ⟨es, hes, h⟩ := bind_eq_ok_iff.mp h
    obtain ⟨_, hending, h⟩ := bind_eq_ok_iff.mp h
    obtain rfl := endValue_eq_ok_iff.mp hending
    rw [← Except.ok.inj h]
    exact .object hlevel (shows_of_rawFields hes)
  | broken b p => exact nomatch h

/-- A tree that shows a list is a list. -/
theorem shows_list {n : Node} {vs : List (Value Float)} (h : n.Shows (.list vs)) :
    ∃ items p, n = .list items none p ∧ List.Forall₂ Shows items vs := by
  cases view_of_shows h with
  | @atom a _ _ ha => cases a <;> exact nomatch ha
  | list _ h => exact ⟨_, _, rfl, h⟩

/-- A tree that shows no list is none. -/
theorem ne_list_of_shows {n : Node} {v : Value Float} (h : n.Shows v) (hv : ∀ vs, v ≠ .list vs)
    (items : List Node) (ending : Option Break) (p : Place) : n ≠ .list items ending p := by
  rintro rfl
  cases view_of_shows h
  exact hv _ rfl

/-- A tree that shows an object has fields; a date has one. -/
theorem fields_of_shows {n : Node} {es : List (String × Value Float)} (h : n.Shows (.object es)) :
    ∃ fields, n.fields? = some (fields, none) ∧ List.Forall₂ ShowsField fields es := by
  cases view_of_shows h with
  | @atom a _ _ ha =>
    cases a with
    | date t =>
      rw [← Value.object.inj (Except.ok.inj ha)]
      exact ⟨_, rfl, .cons ⟨rfl, rfl⟩ .nil⟩
    | null | bool | int | float | string | badNumber | badString => exact nomatch ha
  | object _ h => exact ⟨_, rfl, h⟩

/-- A tree that shows no object has no fields. -/
theorem fields?_eq_none_of_shows {n : Node} {v : Value Float} (h : n.Shows v)
    (hv : ∀ es, v ≠ .object es) : n.fields? = none := by
  cases view_of_shows h with
  | @atom a _ _ ha =>
    cases a with
    | date t => exact absurd (Except.ok.inj ha).symm (hv _)
    | null | bool | int | float | string => rfl
    | badNumber | badString => exact nomatch ha
  | list _ _ => rfl
  | object _ _ => exact absurd rfl (hv _)

/-! ## Trees of values -/

/-- A place in no text. -/
def nowhere : Place := ⟨.point 0, 0, 0⟩

mutual

/-- A tree of a value. -/
def ofValue : Value Float → Node
  | .null => .atom .null nowhere
  | .bool b => .atom (.bool b) nowhere
  | .int n => .atom (.int n) nowhere
  | .float x => .atom (.float x) nowhere
  | .string s => .atom (.string s) nowhere
  | .list vs => .list (ofItems vs) none nowhere
  | .object es => .object (ofFields es) none nowhere

/-- Trees of items. -/
def ofItems : List (Value Float) → List Node
  | [] => []
  | v :: rest => ofValue v :: ofItems rest

/-- Trees of fields. -/
def ofFields : List (String × Value Float) → List (Key × Node)
  | [] => []
  | (k, v) :: rest => (⟨.ok k, .point 0, 0⟩, ofValue v) :: ofFields rest

end

mutual

/-- **Every value is shown by a tree.** -/
theorem shows_ofValue : ∀ v : Value Float, (ofValue v).Shows v
  | .null | .bool _ | .int _ | .float _ | .string _ => rfl
  | .list vs => by
    rw [Shows, ofValue, raw, rawItems_ofItems vs]
    rfl
  | .object es => by
    rw [Shows, ofValue, raw, rawFields_ofFields es]
    rfl

theorem rawItems_ofItems : ∀ vs : List (Value Float), rawItems (ofItems vs) = .ok vs
  | [] => rfl
  | v :: rest => by
    rw [ofItems, rawItems, shows_ofValue v, rawItems_ofItems rest]
    rfl

theorem rawFields_ofFields : ∀ es : List (String × Value Float), rawFields (ofFields es) = .ok es
  | [] => rfl
  | (k, v) :: rest => by
    rw [ofFields, rawFields, shows_ofValue v, rawFields_ofFields rest]
    rfl

end

/-! ## Passing over a value -/

mutual

/-- **A tree that shows a value can be passed over.** -/
theorem skip_of_shows : ∀ {n : Node} {v : Value Float}, n.Shows v → n.skip = .ok ()
  | .atom a p, v, _ => rfl
  | .list items ending p, v, h => by
    obtain ⟨_, -, h⟩ := bind_eq_ok_iff.mp h
    obtain ⟨vs, hvs, h⟩ := bind_eq_ok_iff.mp h
    obtain ⟨_, hending, -⟩ := bind_eq_ok_iff.mp h
    obtain rfl := endValue_eq_ok_iff.mp hending
    rw [skip, skipItems_of_raw hvs]
    rfl
  | .object fields ending p, v, h => by
    obtain ⟨_, -, h⟩ := bind_eq_ok_iff.mp h
    obtain ⟨es, hes, h⟩ := bind_eq_ok_iff.mp h
    obtain ⟨_, hending, -⟩ := bind_eq_ok_iff.mp h
    obtain rfl := endValue_eq_ok_iff.mp hending
    rw [skip, skipFields_of_raw hes]
    rfl
  | .broken b p, v, h => nomatch h

theorem skipItems_of_raw : ∀ {items : List Node} {vs : List (Value Float)},
    rawItems items = .ok vs → skipItems items = .ok ()
  | [], _, _ => rfl
  | item :: rest, _, h => by
    obtain ⟨v, hv, h⟩ := bind_eq_ok_iff.mp h
    obtain ⟨vs, hvs, -⟩ := bind_eq_ok_iff.mp h
    rw [skipItems, skip_of_shows hv]
    exact skipItems_of_raw hvs

theorem skipFields_of_raw : ∀ {fields : List (Key × Node)} {es : List (String × Value Float)},
    rawFields fields = .ok es → skipFields fields = .ok ()
  | [], _, _ => rfl
  | (key, item) :: rest, _, h => by
    obtain ⟨k, -, h⟩ := bind_eq_ok_iff.mp h
    obtain ⟨v, hv, h⟩ := bind_eq_ok_iff.mp h
    obtain ⟨es, hes, -⟩ := bind_eq_ok_iff.mp h
    rw [skipFields, skip_of_shows hv]
    exact skipFields_of_raw hes

end

/-! ## Readers -/

/-- A reader fails on both of two trees, or comes to related things, whenever the values that the
trees show are related. -/
def Respects {β : Type} (R : Value Float → Value Float → Prop) (S : β → β → Prop)
    (read : Node → Except Fault β) : Prop :=
  ∀ ⦃n n' : Node⦄ ⦃v v' : Value Float⦄, n.Shows v → n'.Shows v' → R v v' →
    Concur S (read n) (read n')

/-- What a reader comes to depends on the value that a tree shows, and on nothing else. -/
abbrev Stable {β : Type} (read : Node → Except Fault β) : Prop := Respects Eq Eq read

variable {β : Type}

/-- A reader is stable when it is a function of values that says what it comes to. -/
theorem Stable.of_toOption {read : Node → Except Fault β} (value? : Value Float → Option β)
    (h : ∀ n v, n.Shows v → (read n).toOption = value? v) : Stable read := by
  rintro n n' v _ hn hn' rfl
  exact Concur.of_toOption ((h n v hn).trans (h n' v hn').symm)

/-- What is made of a reading is related when the reading is. -/
theorem Respects.map {R : Value Float → Value Float → Prop} {S : β → β → Prop}
    {read : Node → Except Fault β} (h : Respects R S read) {γ : Type} {S' : γ → γ → Prop}
    {f : β → γ} (hf : ∀ b c, S b c → S' (f b) (f c)) :
    Respects R S' fun n => do
      let b ← read n
      return f b :=
  fun _ _ _ _ hn hn' hv => (h hn hn' hv).bind fun b c hbc => .ok (hf b c hbc)

theorem toOption_number (format : Format) {n : Node} {v : Value Float} (h : n.Shows v) :
    (n.number format).toOption = v.number? := by
  cases view_of_shows h with
  | @atom a _ p ha =>
    cases a with
    | null | bool | int | float | string | date =>
      rw [← Except.ok.inj ha]
      rfl
    | badNumber | badString => exact nomatch ha
  | list _ _ => rfl
  | object _ _ => rfl

theorem stable_number (format : Format) : Stable (number format) :=
  Stable.of_toOption Value.number? fun _ _ => toOption_number format

theorem stable_text (format : Format) : Stable (text format) := by
  refine Stable.of_toOption Value.string? fun n v hn => ?_
  cases view_of_shows hn with
  | @atom a _ p ha =>
    cases a with
    | null | bool | int | float | string | date =>
      rw [← Except.ok.inj ha]
      rfl
    | badNumber | badString => exact nomatch ha
  | list _ _ => rfl
  | object _ _ => rfl

/-- A pair is read from a list of two numbers.  TOML lets more items follow. -/
theorem stable_pair (format : Format) (expected : String) : Stable (pair format expected) := by
  rintro n n' v _ hn hn' rfl
  cases v with
  | list vs =>
    obtain ⟨items, p, rfl, hitems⟩ := shows_list hn
    obtain ⟨items', p', rfl, hitems'⟩ := shows_list hn'
    have hnumber := stable_number format
    match hitems, hitems' with
    | .nil, .nil => exact .error _ _
    | .cons ha .nil, .cons ha' .nil =>
      exact (hnumber ha ha' rfl).bind_same fun _ => .error _ _
    | .cons ha (.cons hb hrest), .cons ha' (.cons hb' hrest') =>
      refine (hnumber ha ha' rfl).bind_same fun x => ?_
      refine (hnumber hb hb' rfl).bind_same fun y => ?_
      cases format with
      | toml => exact .ok rfl
      | json =>
        cases hrest with
        | nil =>
          cases hrest'
          exact .ok rfl
        | cons =>
          cases hrest'
          exact .error _ _
  | null | bool | int | float | string | object =>
    have hfail : ∀ {m : Node}, (∀ items ending p, m ≠ .list items ending p) →
        ∃ f, m.pair format expected = .error f := by
      intro m hm
      cases m with
      | list items ending p => exact absurd rfl (hm items ending p)
      | atom | object | broken => exact ⟨_, rfl⟩
    exact Concur.of_exists_error (hfail (ne_list_of_shows hn fun _ => nofun))
      (hfail (ne_list_of_shows hn' fun _ => nofun))

/-! ## Names of alternatives -/

/-- What stands with the name of an alternative that is a key: nothing, as far as a format has a way
to say so. -/
def isBare : Format → Value Float → Bool
  | .json, .null => true
  | .toml, .list [] => true
  | .toml, .object [] => true
  | _, _ => false

/-- The alternative that a value names. -/
def named? (format : Format) (known : List (String × β)) : Value Float → Option β
  | .string s => known.lookup s
  | .object [(key, v)] => if isBare format v then known.lookup key else none
  | _ => none

theorem toOption_alternative (known : List (String × β)) (name : String) (span : Span) :
    (alternative known name span).toOption = known.lookup name := by
  rw [alternative]
  cases known.lookup name <;> rfl

/-- Without an alternative of its only key an object names none. -/
theorem named?_of_lookup_eq_none {format : Format} {known : List (String × β)} {key : String}
    {v : Value Float} {rest : List (String × Value Float)} (h : known.lookup key = none) :
    named? format known (.object ((key, v) :: rest)) = none := by
  cases rest with
  | nil => rw [named?, h, ite_self]
  | cons => rfl

/-- A name that is the only key of a JSON object is read when its value is `null`. -/
theorem toOption_namedByKey (known : List (String × β)) {fields : List (Key × Node)}
    {es : List (String × Value Float)} (h : List.Forall₂ ShowsField fields es) {p : Place}
    (hlevel : checkLevel p = .ok ()) :
    (namedByKey known fields none p).toOption = named? .json known (.object es) := by
  unfold namedByKey
  rw [hlevel]
  -- the name comes first, then its value, and then what stands behind them
  cases h with
  | nil => rfl
  | @cons field e rest ds hfield hrest =>
    obtain ⟨key, item⟩ := field
    obtain ⟨k, v⟩ := e
    obtain ⟨hk, hv⟩ := hfield
    dsimp only at hk hv ⊢
    rw [hk]
    cases hlookup : known.lookup k with
    | none =>
      rw [named?_of_lookup_eq_none hlookup]
      simp only [bind, Except.bind, alternative, hlookup]
      rfl
    | some b =>
      simp only [bind, Except.bind, alternative, hlookup]
      cases view_of_shows hv with
      | @atom a _ _ ha =>
        cases a with
        | null =>
          rw [← Except.ok.inj ha]
          cases hrest with
          | nil => exact hlookup.symm
          | cons => rfl
        | bool | int | float | string | date =>
          rw [← Except.ok.inj ha]
          cases hrest <;> rfl
        | badNumber | badString => exact nomatch ha
      | list => cases hrest <;> rfl
      | object => cases hrest <;> rfl

/-- A name that is the only key of a TOML table is read when its value is empty. -/
theorem toOption_namedByEmptyTable (known : List (String × β)) {fields : List (Key × Node)}
    {es : List (String × Value Float)} (h : List.Forall₂ ShowsField fields es) (p : Place) :
    (namedByEmptyTable known fields p).toOption = named? .toml known (.object es) := by
  cases h with
  | nil => rfl
  | @cons field e rest ds hfield hrest =>
    obtain ⟨key, item⟩ := field
    obtain ⟨k, v⟩ := e
    obtain ⟨hk, hv⟩ := hfield
    dsimp only at hk hv ⊢
    cases hrest with
    | cons => rfl
    | nil =>
      unfold namedByEmptyTable
      dsimp only
      rw [hk]
      cases hlookup : known.lookup k with
      | none =>
        rw [named?_of_lookup_eq_none hlookup]
        simp only [bind, Except.bind, alternative, hlookup]
        rfl
      | some b =>
        simp only [bind, Except.bind, alternative, hlookup]
        cases view_of_shows hv with
        | @atom a _ _ ha =>
          cases a with
          | null | bool | int | float | string | date =>
            rw [← Except.ok.inj ha]
            rfl
          | badNumber | badString => exact nomatch ha
        | list _ h =>
          cases h with
          | nil => exact hlookup.symm
          | cons => rfl
        | object _ h =>
          cases h with
          | nil => exact hlookup.symm
          | cons => rfl

/-- **One of some alternatives** is read from a value that names it. -/
theorem stable_name (format : Format) (known : List (String × β)) : Stable (name format known) := by
  refine Stable.of_toOption (named? format known) fun n v hn => ?_
  cases view_of_shows hn with
  | @atom a _ p ha =>
    cases a with
    | string s =>
      rw [← Except.ok.inj ha, named?]
      cases format <;> exact toOption_alternative known s _
    | null | bool | int | float | date =>
      rw [← Except.ok.inj ha]
      cases format <;> rfl
    | badNumber | badString => exact nomatch ha
  | list => cases format <;> rfl
  | object hlevel h =>
    cases format with
    | json => exact toOption_namedByKey known h hlevel
    | toml => exact toOption_namedByEmptyTable known h _

end Node

end GridLayout
