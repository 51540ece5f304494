import GridLayout.Text.Quoted

/-!
# Maps that remember the order of their ids

Boxes and sections are kept in the order they were first named, because stacking and every listing
go by that order.  An `IdMap` holds its entries in a list and, beside the list, an index that leads
from an id to the place of its entry, so that nothing has to go through the list to find an id.
Inserting an id that is already there replaces its value and leaves it where it stands; a new id
goes to the end.

List and index say the same thing twice, so they have to stay in step.  That they do is a field of
the type: the index finds an id at a place exactly when the entry at this place is that of the id.
So every operation proves that it keeps the two in step; a place that the index gives is always one
of the list, and no id occurs twice.  Operations that only change values (`mapEntries`, `mapAccum`,
`modify`) keep the ids and the index as they are.
-/

namespace GridLayout

/-- A map from ids to values in the order of first insertion. -/
structure IdMap (β : Type) where
  /-- The entries, first inserted first. -/
  entries : List (String × β)
  /-- The place of the entry of an id, counted from zero. -/
  index : String → Option Nat
  /-- The index finds every id at the place of its entry, and finds nothing else. -/
  index_eq_some_iff : ∀ id i, index id = some i ↔ (entries.map Prod.fst)[i]? = some id

namespace IdMap

variable {β γ σ : Type}

/-! ## Views -/

/-- The ids, first inserted first. -/
def keys (m : IdMap β) : List String := m.entries.map Prod.fst

/-- The values, in the order of the ids. -/
def values (m : IdMap β) : List β := m.entries.map Prod.snd

/-- The number of ids. -/
def size (m : IdMap β) : Nat := m.entries.length

/-- Whether there is no id. -/
def isEmpty (m : IdMap β) : Bool := m.entries.isEmpty

/-- Whether an id is present. -/
def contains (m : IdMap β) (id : String) : Bool := (m.index id).isSome

/-! ## List and index in step -/

/-- A place that the index gives is one of the list. -/
theorem index_lt {m : IdMap β} {id : String} {i : Nat} (h : m.index id = some i) :
    i < m.entries.length := by
  obtain ⟨hi, -⟩ := List.getElem?_eq_some_iff.mp ((m.index_eq_some_iff id i).mp h)
  rwa [List.length_map] at hi

theorem index_eq_none_iff {m : IdMap β} {id : String} : m.index id = none ↔ id ∉ m.keys := by
  rw [keys, List.mem_iff_getElem?, Option.eq_none_iff_forall_ne_some, not_exists]
  exact forall_congr' fun i => not_congr (m.index_eq_some_iff id i)

/-- No id occurs twice, since the index has one place for each. -/
theorem nodup (m : IdMap β) : (m.entries.map Prod.fst).Nodup := by
  refine List.pairwise_iff_getElem.mpr fun i j hi hj hlt heq => ?_
  have hfirst := (m.index_eq_some_iff _ i).mpr (List.getElem?_eq_getElem hi)
  have hagain := (m.index_eq_some_iff _ j).mpr (List.getElem?_eq_getElem hj)
  rw [heq, hagain] at hfirst
  exact Nat.ne_of_lt hlt (Option.some.inj hfirst).symm

theorem nodup_keys (m : IdMap β) : m.keys.Nodup := m.nodup

/-- The ids and their order determine the index. -/
theorem index_congr {a : IdMap β} {b : IdMap γ} (h : a.keys = b.keys) : a.index = b.index := by
  funext id
  refine Option.ext fun i => ?_
  rw [a.index_eq_some_iff, b.index_eq_some_iff]
  exact iff_of_eq (congrArg (fun ids : List String => ids[i]? = some id) h)

theorem ext_entries {a b : IdMap β} (h : a.entries = b.entries) : a = b := by
  have hindex : a.index = b.index := index_congr (congrArg (List.map Prod.fst) h)
  cases a
  cases b
  cases h
  cases hindex
  rfl

instance [DecidableEq β] : DecidableEq (IdMap β) := fun a b =>
  if h : a.entries = b.entries then .isTrue (ext_entries h)
  else .isFalse fun e => h (congrArg entries e)

/-! ## Look-up -/

/-- The value of an id: that of the entry at the place that the index gives. -/
def get? (m : IdMap β) (id : String) : Option β :=
  match h : m.index id with
  | some i => some (m.entries.get ⟨i, index_lt h⟩).2
  | none => none

/-! ## Construction -/

/-- The map without ids. -/
def empty : IdMap β := ⟨[], fun _ => none, by simp⟩

instance : Inhabited (IdMap β) := ⟨empty⟩

theorem map_fst_modify (f : β → β) (i : Nat) (l : List (String × β)) :
    (l.modify i fun e => (e.1, f e.2)).map Prod.fst = l.map Prod.fst := by
  induction l generalizing i with
  | nil => simp
  | cons e rest ih => cases i <;> simp [ih]

/-- Changes the value of the entry at a place. -/
def modifyAt (m : IdMap β) (i : Nat) (f : β → β) : IdMap β where
  entries := m.entries.modify i fun e => (e.1, f e.2)
  index := m.index
  index_eq_some_iff := by
    rw [map_fst_modify]
    exact m.index_eq_some_iff

/-- One more id at the end leaves the others where they are. -/
theorem getElem?_append_id (ids : List String) (id k : String) (i : Nat) :
    (ids ++ [id])[i]? = some k ↔ ids[i]? = some k ∨ i = ids.length ∧ id = k := by
  rcases Nat.lt_trichotomy i ids.length with hlt | rfl | hgt
  · rw [List.getElem?_append_left hlt]
    have hne : i ≠ ids.length := Nat.ne_of_lt hlt
    simp [hne]
  · simp
  · have hbehind : (ids ++ [id]).length ≤ i := by
      rwa [List.length_append, List.length_singleton]
    have hne : i ≠ ids.length := Nat.ne_of_gt hgt
    rw [List.getElem?_eq_none hbehind, List.getElem?_eq_none (Nat.le_of_lt hgt)]
    simp [hne]

/-- Puts a new id at the end. -/
def append (m : IdMap β) (id : String) (v : β) (h : m.index id = none) : IdMap β where
  entries := m.entries ++ [(id, v)]
  index := fun k => if k = id then some m.entries.length else m.index k
  index_eq_some_iff := by
    intro k i
    rw [List.map_append, List.map_cons, List.map_nil, getElem?_append_id, List.length_map,
      ← m.index_eq_some_iff]
    by_cases hk : k = id
    · subst hk
      simp [h, eq_comm]
    · have hk' : id ≠ k := fun heq => hk heq.symm
      simp [hk, hk']

/-- Inserts a value and gives the value that it takes the place of.  An id that is already there
keeps its place. -/
def put (m : IdMap β) (id : String) (v : β) : Option β × IdMap β :=
  match h : m.index id with
  | some i => (some (m.entries.get ⟨i, index_lt h⟩).2, m.modifyAt i fun _ => v)
  | none => (none, m.append id v h)

/-- Inserts a value.  An id that is already there keeps its place. -/
def insert (m : IdMap β) (id : String) (v : β) : IdMap β := (m.put id v).2

/-- The map of a list of entries, inserted one by one. -/
def ofList (l : List (String × β)) : IdMap β := l.foldl (fun m e => m.insert e.1 e.2) empty

/-- Inserts a list of entries, one by one. -/
def insertAll (m : IdMap β) (l : List (String × β)) : IdMap β :=
  l.foldl (fun m e => m.insert e.1 e.2) m

/-! ## Changing values -/

/-- Applies a function to every value, with its id. -/
def mapEntries (f : String → β → γ) (m : IdMap β) : IdMap γ where
  entries := m.entries.map fun e => (e.1, f e.1 e.2)
  index := m.index
  index_eq_some_iff := by
    have h : (m.entries.map fun e => (e.1, f e.1 e.2)).map Prod.fst = m.entries.map Prod.fst := by
      simp [List.map_map, Function.comp_def]
    rw [h]
    exact m.index_eq_some_iff

/-- Applies a function to every value. -/
def map (f : β → γ) (m : IdMap β) : IdMap γ := m.mapEntries fun _ v => f v

/-- Threads a state through a list of entries, changing values on the way. -/
def accumEntries (f : σ → β → γ × σ) : σ → List (String × β) → List (String × γ)
  | _, [] => []
  | s, (k, v) :: rest => (k, (f s v).1) :: accumEntries f (f s v).2 rest

theorem map_fst_accumEntries (f : σ → β → γ × σ) (s : σ) (l : List (String × β)) :
    (accumEntries f s l).map Prod.fst = l.map Prod.fst := by
  induction l generalizing s with
  | nil => rfl
  | cons e rest ih => simp [accumEntries, ih]

/-- Changes every value in the order of the ids, with a state that runs along. -/
def mapAccum (f : σ → β → γ × σ) (s : σ) (m : IdMap β) : IdMap γ where
  entries := accumEntries f s m.entries
  index := m.index
  index_eq_some_iff := by
    rw [map_fst_accumEntries]
    exact m.index_eq_some_iff

/-- Changes the value of one id, at the place that the index gives; an id that is not there changes
nothing. -/
def modify (m : IdMap β) (id : String) (f : β → β) : IdMap β :=
  match m.index id with
  | some i => m.modifyAt i f
  | none => m

/-! ## Text -/

/-- A map in words: ids in quotes, each with its value. -/
def describe (f : β → String) (m : IdMap β) : String :=
  "\x7b" ++ ", ".intercalate (m.entries.map fun e => Text.quoted e.1 ++ ": " ++ f e.2) ++ "\x7d"

/-! ## The entries of a map that is made from another -/

@[simp] theorem entries_empty : (empty : IdMap β).entries = [] := rfl

@[simp] theorem entries_mapEntries (f : String → β → γ) (m : IdMap β) :
    (m.mapEntries f).entries = m.entries.map fun e => (e.1, f e.1 e.2) := rfl

@[simp] theorem keys_mapEntries (f : String → β → γ) (m : IdMap β) :
    (m.mapEntries f).keys = m.keys := by
  simp [keys, List.map_map, Function.comp_def]

@[simp] theorem keys_mapAccum (f : σ → β → γ × σ) (s : σ) (m : IdMap β) :
    (m.mapAccum f s).keys = m.keys := map_fst_accumEntries f s m.entries

@[simp] theorem keys_modifyAt (m : IdMap β) (i : Nat) (f : β → β) :
    (m.modifyAt i f).keys = m.keys := map_fst_modify f i m.entries

@[simp] theorem keys_modify (m : IdMap β) (id : String) (f : β → β) :
    (m.modify id f).keys = m.keys := by
  rw [modify]
  split
  · exact keys_modifyAt m _ f
  · rfl

end IdMap

end GridLayout
