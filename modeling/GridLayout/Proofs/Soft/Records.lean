import GridLayout.Proofs.IdMap
import GridLayout.Proofs.Soft.Trees

/-!
# Values that differ in one place

Two lists that are the same but for one element, in whose place there is a related one, are
`ButOne` apart.  Lists of fields, maps and records are read element by element, so what is read of
two of them is `ButOne` apart again, or neither can be read.

The lemmas come in pairs.  One is about two trees that show the same; it is the other one's case for
everything before and behind the place where the trees differ.

* `Concur.mapM`: lists, read item by item.
* `IdMap.ButOne`, `Node.respects_mapOf`: maps.  Of two equal keys the later counts, so what differs
  may be lost, but nothing else changes.
* `InRecord`, `Node.respects_record`: records, given as an object or as a list.
-/

namespace GridLayout

/-! ## Lists -/

/-- Two lists are the same but for at most one element, in whose place there is a related one. -/
inductive ButOne {β : Type} (R : β → β → Prop) : List β → List β → Prop
  | refl (l : List β) : ButOne R l l
  | head {a b : β} (h : R a b) (l : List β) : ButOne R (a :: l) (b :: l)
  | tail (a : β) {l l' : List β} (h : ButOne R l l') : ButOne R (a :: l) (a :: l')

/-- Lists of equal elements are equal. -/
theorem ButOne.eq {β : Type} {R : β → β → Prop} (hR : ∀ a b, R a b → a = b) {l l' : List β}
    (h : ButOne R l l') : l = l' := by
  induction h with
  | refl => rfl
  | head h l => rw [hR _ _ h]
  | tail a _ ih => rw [ih]

/-- Two fields have the same given key, and their values are related. -/
structure OnField {β : Type} (key : String) (R : β → β → Prop) (e f : String × β) : Prop where
  left : e.1 = key
  right : f.1 = key
  value : R e.2 f.2

namespace Concur

variable {ε A B V : Type} {f : A → Except ε B} {P : A → V → Prop}

/-- Lists are read alike when they show the same. -/
theorem mapM_same (hsame : ∀ a a' v, P a v → P a' v → Concur Eq (f a) (f a')) {l l' : List A}
    {vs : List V} (hl : List.Forall₂ P l vs) (hl' : List.Forall₂ P l' vs) :
    Concur Eq (l.mapM f) (l'.mapM f) := by
  induction hl generalizing l' with
  | nil =>
    cases hl'
    exact Concur.refl _
  | cons ha _ ih =>
    cases hl' with
    | cons ha' hl' =>
      rw [List.mapM_cons, List.mapM_cons]
      exact (hsame _ _ _ ha ha').bind_same fun b => (ih hl').bind_same fun bs => Concur.refl _

/-- **Lists that differ in one place** are read as lists that differ in that place. -/
theorem mapM {R : V → V → Prop} {S : B → B → Prop}
    (hsame : ∀ a a' v, P a v → P a' v → Concur Eq (f a) (f a'))
    (hdiff : ∀ a a' v v', P a v → P a' v' → R v v' → Concur S (f a) (f a')) {vs vs' : List V}
    (h : ButOne R vs vs') :
    ∀ {l l' : List A}, List.Forall₂ P l vs → List.Forall₂ P l' vs' →
      Concur (ButOne S) (l.mapM f) (l'.mapM f) := by
  induction h with
  | refl vs =>
    intro l l' hl hl'
    refine (mapM_same hsame hl hl').mono fun bs bs' hbs => ?_
    rw [hbs]
    exact .refl bs'
  | head hR vs =>
    intro l l' hl hl'
    cases hl with
    | cons ha hl =>
      cases hl' with
      | cons ha' hl' =>
        rw [List.mapM_cons, List.mapM_cons]
        refine (hdiff _ _ _ _ ha ha' hR).bind fun b b' hb => ?_
        exact (mapM_same hsame hl hl').bind_same fun bs => .ok (.head hb bs)
  | tail v _ ih =>
    intro l l' hl hl'
    cases hl with
    | cons ha hl =>
      cases hl' with
      | cons ha' hl' =>
        rw [List.mapM_cons, List.mapM_cons]
        refine (hsame _ _ _ ha ha').bind_same fun b => ?_
        exact (ih hl hl').bind fun bs bs' hbs => .ok (.tail b hbs)

end Concur

/-! ## Maps -/

/-- Two maps are the same but for the value of at most one id. -/
def IdMap.ButOne {β : Type} (id : String) (S : β → β → Prop) (m n : IdMap β) : Prop :=
  GridLayout.ButOne (OnField id S) m.entries n.entries

namespace IdMap

variable {β : Type} {id : String} {S : β → β → Prop}

theorem ButOne.refl (m : IdMap β) : m.ButOne id S m := GridLayout.ButOne.refl m.entries

theorem butOne_insertEntry_value (id : String) {v w : β} (h : S v w) (l : List (String × β)) :
    GridLayout.ButOne (OnField id S) (insertEntry id v l) (insertEntry id w l) := by
  induction l with
  | nil => exact .head ⟨rfl, rfl, h⟩ []
  | cons e rest ih =>
    rw [insertEntry, insertEntry]
    split
    · next hid => exact .head ⟨hid, hid, h⟩ rest
    · exact .tail e ih

theorem butOne_insertEntry (k : String) (v : β) {l l' : List (String × β)}
    (h : GridLayout.ButOne (OnField id S) l l') :
    GridLayout.ButOne (OnField id S) (insertEntry k v l) (insertEntry k v l') := by
  induction h with
  | refl l => exact .refl _
  | @head e f h l =>
    obtain ⟨i, w⟩ := e
    obtain ⟨j, w'⟩ := f
    obtain rfl : i = id := h.left
    obtain rfl : j = i := h.right
    rw [insertEntry, insertEntry]
    split
    -- the inserted value takes the place of what differs
    · exact .refl _
    · exact .head h _
  | tail e h ih =>
    rw [insertEntry, insertEntry]
    split
    · exact .tail _ h
    · exact .tail _ ih

/-- The same entry, inserted into maps that differ in one place. -/
theorem ButOne.insert {m n : IdMap β} (h : m.ButOne id S n) (k : String) (v : β) :
    (m.insert k v).ButOne id S (n.insert k v) := by
  rw [IdMap.ButOne, entries_insert, entries_insert]
  exact butOne_insertEntry k v h

/-- Entries that are inserted into maps that differ in one place. -/
theorem ButOne.insertAll {m n : IdMap β} (h : m.ButOne id S n) (l : List (String × β)) :
    (m.insertAll l).ButOne id S (n.insertAll l) := by
  induction l generalizing m n with
  | nil => exact h
  | cons e rest ih => exact ih (h.insert e.1 e.2)

/-- **Maps of lists that differ in one place** differ in one place. -/
theorem butOne_insertAll {l l' : List (String × β)} (h : GridLayout.ButOne (OnField id S) l l') :
    ∀ m : IdMap β, (m.insertAll l).ButOne id S (m.insertAll l') := by
  induction h with
  | refl l => exact fun m => .refl _
  | @head e f h l =>
    intro m
    have hinsert : (m.insert e.1 e.2).ButOne id S (m.insert f.1 f.2) := by
      rw [h.left, h.right, IdMap.ButOne, entries_insert, entries_insert]
      exact butOne_insertEntry_value id h.value m.entries
    exact hinsert.insertAll l
  | tail e _ ih => exact fun m => ih (m.insert e.1 e.2)

end IdMap

/-! ## Where values differ -/

section

variable {α : Type}

/-- Two values are the same, or objects that are the same but for the value under one key. -/
inductive InMap (key : String) (R : Value α → Value α → Prop) : Value α → Value α → Prop
  | same (v : Value α) : InMap key R v v
  | object {es es' : List (String × Value α)} (h : ButOne (OnField key R) es es') :
    InMap key R (.object es) (.object es')

/-- Two values are the same, or stand for records with fields of the given names, the same but for
one field: as objects they differ under its name, as lists in its place. -/
inductive InRecord (names : List String) (name : String) (R : Value α → Value α → Prop) :
    Value α → Value α → Prop
  | same (v : Value α) : InRecord names name R v v
  | field {es es' : List (String × Value α)} (h : ButOne (OnField name R) es es') :
    InRecord names name R (.object es) (.object es')
  | item {vs : List (Value α)} {i : Nat} {v w : Value α} (hname : names[i]? = some name)
    (hv : vs[i]? = some v) (h : R v w) : InRecord names name R (.list vs) (.list (vs.set i w))

end

namespace Node

variable {β : Type} {R : Value Float → Value Float → Prop} {S : β → β → Prop}

/-! ## Values that may be left open -/

/-- A value that may be left open is read alike, when it is left open in both trees or in
neither. -/
theorem Respects.optional {read : Node → Except Fault β} (h : Respects R S read)
    (hnull : ∀ v v', R v v' → (v = .null ↔ v' = .null)) :
    Respects R (Option.Rel S) (optional read) := by
  have hopen : ∀ {n : Node}, n.Shows .null → ∃ p, n = .atom .null p := by
    intro n hn
    cases view_of_shows hn with
    | @atom a _ p ha =>
      cases a with
      | null => exact ⟨p, rfl⟩
      | bool | int | float | string | date | badNumber | badString => exact nomatch ha
  have hgiven : ∀ {n : Node} {v : Value Float}, n.Shows v → v ≠ .null →
      n.optional read = (read n).map some := by
    intro n v hn hv
    cases n with
    | atom a p =>
      cases a with
      | null => exact absurd (Except.ok.inj hn).symm hv
      | bool | int | float | string | date | badNumber | badString => rfl
    | list | object | broken => rfl
  intro n n' v v' hn hn' hR
  by_cases hv : v = .null
  · obtain rfl := hv
    obtain rfl := (hnull _ _ hR).mp rfl
    obtain ⟨p, rfl⟩ := hopen hn
    obtain ⟨p', rfl⟩ := hopen hn'
    exact .ok .none
  · have hv' : v' ≠ .null := fun h' => hv ((hnull _ _ hR).mpr h')
    rw [hgiven hn hv, hgiven hn' hv']
    exact (h hn hn' hR).map fun _ _ => .some

theorem Stable.optional {read : Node → Except Fault β} (h : Stable read) :
    Stable (optional read) := by
  intro n n' v v' hn hn' hv
  refine (Respects.optional h (fun v v' hv => by rw [hv]) hn hn' hv).mono fun o o' ho => ?_
  cases ho with
  | some h => rw [h]
  | none => rfl

/-! ## Lists and maps -/

/-- A list is read item by item. -/
theorem stable_listOf {read : Node → Except Fault β} (h : Stable read) (format : Format) :
    Stable (listOf format read) := by
  rintro n n' v _ hn hn' rfl
  cases v with
  | list vs =>
    obtain ⟨items, p, rfl, hitems⟩ := shows_list hn
    obtain ⟨items', p', rfl, hitems'⟩ := shows_list hn'
    have hread : Concur Eq (items.mapM read) (items'.mapM read) :=
      Concur.mapM_same (P := Shows) (fun a a' v ha ha' => h ha ha' rfl) hitems hitems'
    exact hread.bind_same fun bs => Concur.refl _
  | null | bool | int | float | string | object =>
    have hfail : ∀ {m : Node}, (∀ items ending p, m ≠ .list items ending p) →
        ∃ f, m.listOf format read = .error f := by
      intro m hm
      cases m with
      | list items ending p => exact absurd rfl (hm items ending p)
      | atom | object | broken => exact ⟨_, rfl⟩
    exact Concur.of_exists_error (hfail (ne_list_of_shows hn fun _ => nofun))
      (hfail (ne_list_of_shows hn' fun _ => nofun))

/-- **A map is read as a map that differs in the value of the same id**, or not at all. -/
theorem respects_mapOf {read : Node → Except Fault β} (hstable : Stable read)
    (hread : Respects R S read) (format : Format) (expected key : String) :
    Respects (InMap key R) (IdMap.ButOne key S) (mapOf format expected read) := by
  have hfields : ∀ {n n' : Node} {es es' : List (String × Value Float)}, n.Shows (.object es) →
      n'.Shows (.object es') → ButOne (OnField key R) es es' →
      Concur (IdMap.ButOne key S) (mapOf format expected read n)
        (mapOf format expected read n') := by
    intro n n' es es' hn hn' h
    obtain ⟨fields, hfields, hes⟩ := fields_of_shows hn
    obtain ⟨fields', hfields', hes'⟩ := fields_of_shows hn'
    unfold mapOf
    rw [hfields, hfields']
    refine Concur.bind (Concur.mapM (S := OnField key S) ?_ ?_ h hes hes')
      fun entries entries' he => ?_
    · rintro ⟨key, item⟩ ⟨key', item'⟩ ⟨k, v⟩ ⟨hk, hv⟩ ⟨hk', hv'⟩
      dsimp only at hk hk' hv hv' ⊢
      rw [hk, hk']
      exact (hstable hv hv' rfl).bind_same fun b => Concur.refl _
    · rintro ⟨key, item⟩ ⟨key', item'⟩ ⟨k, v⟩ ⟨k', v'⟩ ⟨hk, hv⟩ ⟨hk', hv'⟩ ⟨hleft, hright, hR⟩
      dsimp only at hk hk' hv hv' hleft hright hR ⊢
      rw [hk, hk']
      exact (hread hv hv' hR).bind fun b b' hb => .ok ⟨hleft, hright, hb⟩
    · exact .ok (IdMap.butOne_insertAll he IdMap.empty)
  intro n n' v v' hn hn' hv
  cases hv with
  | object h => exact hfields hn hn' h
  | same v =>
    by_cases hobject : ∃ es, v = .object es
    · obtain ⟨es, rfl⟩ := hobject
      exact hfields hn hn' (.refl es)
    · have hnone : ∀ es, v ≠ .object es := fun es heq => hobject ⟨es, heq⟩
      unfold mapOf
      rw [fields?_eq_none_of_shows hn hnone, fields?_eq_none_of_shows hn' hnone]
      exact .error _ _

theorem stable_mapOf {read : Node → Except Fault β} (h : Stable read) (format : Format)
    (expected : String) : Stable (mapOf format expected read) := by
  rintro n n' v _ hn hn' rfl
  refine (respects_mapOf h h format expected "" hn hn' (.same v)).mono fun m m' hm => ?_
  refine IdMap.ext_entries (hm.eq fun e f hef => ?_)
  exact Prod.ext (hef.left.trans hef.right.symm) hef.value

/-! ## Records -/

variable {σ : Type} {T : σ → σ → Prop} {format : Format} {fields : List (Field σ)} {name : String}

/-- Two ways to put a field into a record keep records related. -/
def Keeps (T : σ → σ → Prop) (put put' : σ → σ) : Prop := ∀ s s', T s s' → T (put s) (put' s')

section positions

variable {short short' : Nat → Fault}

/-- Records given as lists that show the same. -/
theorem positions_same (hsame : ∀ f ∈ fields, Respects Eq (Keeps T) f.read)
    {items items' : List Node} {vs : List (Value Float)} (hitems : List.Forall₂ Shows items vs)
    (hitems' : List.Forall₂ Shows items' vs) (n : Nat) {s s' : σ} (hs : T s s') :
    Concur T (positions format short fields n s items none)
      (positions format short' fields n s' items' none) := by
  induction fields generalizing items items' vs n s s' with
  | nil =>
    unfold positions
    cases format with
    | toml => exact .ok hs
    | json =>
      cases hitems with
      | nil =>
        cases hitems'
        exact .ok hs
      | cons =>
        cases hitems'
        exact .error _ _
  | cons f fs ih =>
    have ih := fun {items items' vs} => @ih (fun g hg => hsame g (List.mem_cons_of_mem f hg))
      items items' vs
    cases hitems with
    | nil =>
      cases hitems'
      rw [positions, positions]
      split
      · exact ih .nil .nil (n + 1) hs
      · exact .error _ _
    | cons hv hitems =>
      cases hitems' with
      | cons hv' hitems' =>
        rw [positions, positions]
        refine (hsame f List.mem_cons_self hv hv' rfl).bind fun put put' hput => ?_
        exact ih hitems hitems' (n + 1) (hput s s' hs)

/-- **Records given as lists that differ in the place of a field.** -/
theorem positions_set (hsame : ∀ f ∈ fields, Respects Eq (Keeps T) f.read)
    (hdiff : ∀ f ∈ fields, f.name = name → Respects R (Keeps T) f.read) {items items' : List Node}
    {vs : List (Value Float)} {i : Nat} {v w : Value Float}
    (hname : (fields.map Field.name)[i]? = some name) (hv : vs[i]? = some v) (hR : R v w)
    (hitems : List.Forall₂ Shows items vs) (hitems' : List.Forall₂ Shows items' (vs.set i w))
    (n : Nat) {s s' : σ} (hs : T s s') :
    Concur T (positions format short fields n s items none)
      (positions format short' fields n s' items' none) := by
  induction fields generalizing items items' vs i n s s' with
  | nil => exact nomatch hname
  | cons f fs ih =>
    have hsame' : ∀ g ∈ fs, Respects Eq (Keeps T) g.read := fun g hg =>
      hsame g (List.mem_cons_of_mem f hg)
    cases hitems with
    | nil => exact nomatch hv
    | cons hu hitems =>
      cases i with
      | zero =>
        -- the item of the field itself, and then items that show the same
        obtain rfl := Option.some.inj hv
        cases hitems' with
        | cons hw hitems' =>
          rw [positions, positions]
          have hread := hdiff f List.mem_cons_self (Option.some.inj hname) hu hw hR
          refine hread.bind fun put put' hput => ?_
          exact positions_same hsame' hitems hitems' (n + 1) (hput s s' hs)
      | succ i =>
        cases hitems' with
        | cons hu' hitems' =>
          rw [positions, positions]
          refine (hsame f List.mem_cons_self hu hu' rfl).bind fun put put' hput => ?_
          exact ih hsame' (fun g hg => hdiff g (List.mem_cons_of_mem f hg)) hname hv hitems
            hitems' (n + 1) (hput s s' hs)

end positions

/-- One field of two objects with the same key, and then the others. -/
theorem namedFields_cons {field field' : Key × Node} {k : String} {v v' : Value Float}
    (hfield : ShowsField field (k, v)) (hfield' : ShowsField field' (k, v'))
    (hread : ∀ f ∈ fields, f.name = k → Concur (Keeps T) (f.read field.2) (f.read field'.2))
    {rest rest' : List (Key × Node)}
    (hrest : ∀ seen s s', T s s' → Concur T (namedFields format fields seen s rest)
      (namedFields format fields seen s' rest'))
    (seen : List String) {s s' : σ} (hs : T s s') :
    Concur T (namedFields format fields seen s (field :: rest))
      (namedFields format fields seen s' (field' :: rest')) := by
  obtain ⟨key, item⟩ := field
  obtain ⟨key', item'⟩ := field'
  obtain ⟨hk, hv⟩ := hfield
  obtain ⟨hk', hv'⟩ := hfield'
  dsimp only at hk hk' hv hv' hread
  rw [namedFields, namedFields, hk, hk']
  dsimp only [bind, Except.bind]
  cases hfind : fields.find? fun f => f.name == k with
  | none =>
    dsimp only
    rw [skip_of_shows hv, skip_of_shows hv']
    exact hrest seen s s' hs
  | some f =>
    have hname : f.name = k := by simpa using List.find?_some hfind
    dsimp only
    split
    · exact .error _ _
    · refine (hread f (List.mem_of_find?_eq_some hfind) hname).bind fun put put' hput => ?_
      exact hrest (k :: seen) _ _ (hput s s' hs)

/-- Records given as objects that show the same. -/
theorem namedFields_same (hsame : ∀ f ∈ fields, Respects Eq (Keeps T) f.read)
    {given given' : List (Key × Node)} {es : List (String × Value Float)}
    (h : List.Forall₂ ShowsField given es) (h' : List.Forall₂ ShowsField given' es) :
    ∀ (seen : List String) (s s' : σ), T s s' →
      Concur T (namedFields format fields seen s given)
        (namedFields format fields seen s' given') := by
  induction h generalizing given' with
  | nil =>
    cases h'
    exact fun seen s s' hs => .ok hs
  | cons hfield _ ih =>
    cases h' with
    | cons hfield' h' =>
      intro seen s s' hs
      exact namedFields_cons hfield hfield'
        (fun f hf _ => hsame f hf hfield.2 hfield'.2 rfl) (ih h') seen hs

/-- **Records given as objects that differ under the name of a field.** -/
theorem namedFields_butOne (hsame : ∀ f ∈ fields, Respects Eq (Keeps T) f.read)
    (hdiff : ∀ f ∈ fields, f.name = name → Respects R (Keeps T) f.read)
    {es es' : List (String × Value Float)} (hes : ButOne (OnField name R) es es') :
    ∀ {given given' : List (Key × Node)}, List.Forall₂ ShowsField given es →
      List.Forall₂ ShowsField given' es' → ∀ (seen : List String) (s s' : σ), T s s' →
        Concur T (namedFields format fields seen s given)
          (namedFields format fields seen s' given') := by
  induction hes with
  | refl es => exact fun h h' => namedFields_same hsame h h'
  | @head e e' hR es =>
    intro given given' h h' seen s s' hs
    obtain ⟨k, v⟩ := e
    obtain ⟨k', v'⟩ := e'
    obtain rfl : k = name := hR.left
    obtain rfl : k' = k := hR.right
    cases h with
    | cons hfield h =>
      cases h' with
      | cons hfield' h' =>
        exact namedFields_cons hfield hfield'
          (fun f hf hname => hdiff f hf hname hfield.2 hfield'.2 hR.value)
          (namedFields_same hsame h h') seen hs
  | tail e _ ih =>
    intro given given' h h' seen s s' hs
    cases h with
    | cons hfield h =>
      cases h' with
      | cons hfield' h' =>
        exact namedFields_cons hfield hfield'
          (fun f hf _ => hsame f hf hfield.2 hfield'.2 rfl) (ih h h') seen hs

/-- A tree with fields is read as a record field by field. -/
theorem record_of_fields {n : Node} {given : List (Key × Node)} (h : n.fields? = some (given, none))
    (title : String) (start : σ) :
    record format title fields start n = namedFields format fields [] start given := by
  have hclose : ∀ x : Except Fault σ, (do let s ← x; endValue none; return s) = x := by
    intro x
    cases x <;> rfl
  cases n with
  | list items ending p => exact nomatch h
  | atom | object | broken =>
    simp only [record, h]
    exact hclose _

/-- A tree that shows neither a list nor an object is no record. -/
theorem exists_record_eq_error {n : Node} {v : Value Float} (h : n.Shows v)
    (hlist : ∀ vs, v ≠ .list vs) (hobject : ∀ es, v ≠ .object es) (title : String) (start : σ) :
    ∃ f, record format title fields start n = .error f := by
  have hnone := fields?_eq_none_of_shows h hobject
  cases n with
  | list items ending p => exact absurd rfl (ne_list_of_shows h hlist items ending p)
  | atom | object | broken =>
    simp only [record, hnone]
    exact ⟨_, rfl⟩

/-- **A record is read as one that differs in what comes of the same field**, or not at all. -/
theorem respects_record {names : List String} (hnames : fields.map Field.name = names) {start : σ}
    (hstart : T start start) (hsame : fields.Forall fun f => Respects Eq (Keeps T) f.read)
    (hdiff : fields.Forall fun f => f.name = name → Respects R (Keeps T) f.read) (title : String) :
    Respects (InRecord names name R) T (record format title fields start) := by
  rw [List.forall_iff_forall_mem] at hsame hdiff
  have hobject : ∀ {n n' : Node} {es es' : List (String × Value Float)}, n.Shows (.object es) →
      n'.Shows (.object es') → ButOne (OnField name R) es es' →
      Concur T (record format title fields start n) (record format title fields start n') := by
    intro n n' es es' hn hn' h
    obtain ⟨given, hgiven, hes⟩ := fields_of_shows hn
    obtain ⟨given', hgiven', hes'⟩ := fields_of_shows hn'
    rw [record_of_fields hgiven, record_of_fields hgiven']
    exact namedFields_butOne hsame hdiff h hes hes' [] start start hstart
  intro n n' v v' hn hn' hv
  cases hv with
  | field h => exact hobject hn hn' h
  | item hname hv hR =>
    obtain ⟨items, p, rfl, hitems⟩ := shows_list hn
    obtain ⟨items', p', rfl, hitems'⟩ := shows_list hn'
    rw [← hnames] at hname
    exact positions_set hsame hdiff hname hv hR hitems hitems' 0 hstart
  | same =>
    cases v with
    | object es => exact hobject hn hn' (.refl es)
    | list vs =>
      obtain ⟨items, p, rfl, hitems⟩ := shows_list hn
      obtain ⟨items', p', rfl, hitems'⟩ := shows_list hn'
      exact positions_same hsame hitems hitems' 0 hstart
    | null | bool | int | float | string =>
      exact Concur.of_exists_error
        (exists_record_eq_error hn (fun _ => nofun) (fun _ => nofun) title start)
        (exists_record_eq_error hn' (fun _ => nofun) (fun _ => nofun) title start)

theorem stable_record (hfields : fields.Forall fun f => Stable f.read) (title : String)
    (start : σ) : Stable (record format title fields start) := by
  have hsame : fields.Forall fun f => Respects Eq (Keeps Eq) f.read := by
    refine hfields.imp fun f hf n n' v v' hn hn' hv => ?_
    refine (hf hn hn' hv).mono fun put put' hput s s' hs => ?_
    rw [hput, hs]
  have hdiff : fields.Forall fun f => f.name = "" → Respects Eq (Keeps Eq) f.read :=
    hsame.imp fun f hf (_ : f.name = "") => hf
  rintro n n' v _ hn hn' rfl
  exact respects_record rfl rfl hsame hdiff title hn hn' (.same v)

end Node

end GridLayout
