import GridLayout.IdMap
import Mathlib.Data.List.Nodup

/-!
# Looking up in maps that remember their order

An `IdMap` is read in two ways: entry by entry, in its order, and by id, at the place that the index
gives.  The place of an id cuts the entries in two, and the id is in neither part (`exists_cut`).
So what the index leads to is what a search of the list would find, and the operations that go by
the index are operations on the list: inserting is `insertEntry`, and changing the value of one id
is a change of values by id.  Every map that only changes values commutes with both views.

* `get?_eq_some_iff`: what is found under an id is an entry, and every entry is found under its id.
* `get?_mapEntries`, `get?_map`, `map_map`: changing values, seen by id and twice in a row.
* `modify_eq_mapEntries`: changing the value of one id, seen on the list.
* `entries_insert`, `keys_insert`, `get?_insert`: inserting, seen on the list, by ids and by id.
* `mem_entries_ofList`, `map_ofList`: maps built from lists.
* `mapEntries_get?`: a map read back id by id along the ids of another is the map itself.
* `mapEntries_eq_of_keys_eq`: maps with the same ids that become the same map.
* `ext_get?`: maps with the same ids in the same order that find the same are the same.
-/

namespace GridLayout

namespace IdMap

variable {β γ δ σ : Type}

/-! ## The place of an id -/

/-- **The place of an id cuts the entries** in what is before its entry and what is behind. -/
theorem exists_cut {m : IdMap β} {id : String} {i : Nat} (h : m.index id = some i) :
    ∃ before v after, m.entries = before ++ (id, v) :: after ∧ before.length = i := by
  have hi := index_lt h
  rcases hentry : m.entries[i] with ⟨w, v⟩
  have hcut : m.entries = m.entries.take i ++ (w, v) :: m.entries.drop (i + 1) := by
    rw [← hentry, List.getElem_cons_drop, List.take_append_drop]
  obtain ⟨hlt, hid⟩ := List.getElem?_eq_some_iff.mp ((m.index_eq_some_iff id i).mp h)
  rw [List.getElem_map, hentry] at hid
  obtain rfl : w = id := hid
  exact ⟨_, v, _, hcut, List.length_take_of_le (Nat.le_of_lt hi)⟩

section Cut

variable {m : IdMap β} {id : String} {v : β} {before after : List (String × β)}

/-- The id is in neither part. -/
theorem not_mem_of_cut (h : m.entries = before ++ (id, v) :: after) :
    id ∉ before.map Prod.fst ∧ id ∉ after.map Prod.fst := by
  have hnodup := m.nodup
  rw [h, List.map_append, List.map_cons, List.nodup_middle, List.nodup_cons, List.mem_append,
    not_or] at hnodup
  exact hnodup.1

theorem index_of_cut (h : m.entries = before ++ (id, v) :: after) :
    m.index id = some before.length := by
  refine (m.index_eq_some_iff id _).mpr ?_
  rw [h, List.map_append, List.map_cons]
  simp

/-- What the index leads to is the value of the entry. -/
theorem get?_of_cut (h : m.entries = before ++ (id, v) :: after) : m.get? id = some v := by
  have hindex := index_of_cut h
  rw [get?]
  split
  · next i hi =>
    obtain rfl : before.length = i := Option.some.inj (hindex.symm.trans hi)
    simp [h]
  · next hnone => exact nomatch hindex.symm.trans hnone

/-- Changing the value at the place of an id leaves both parts as they are. -/
theorem entries_modifyAt_of_cut (h : m.entries = before ++ (id, v) :: after) (f : β → β) :
    (m.modifyAt before.length f).entries = before ++ (id, f v) :: after := by
  show m.entries.modify before.length _ = _
  rw [h, List.modify_eq_take_drop, List.take_left, List.drop_left, List.modifyHead_cons]

theorem entries_modify_of_cut (h : m.entries = before ++ (id, v) :: after) (f : β → β) :
    (m.modify id f).entries = before ++ (id, f v) :: after := by
  rw [modify, index_of_cut h]
  exact entries_modifyAt_of_cut h f

theorem entries_insert_of_cut (h : m.entries = before ++ (id, v) :: after) (w : β) :
    (m.insert id w).entries = before ++ (id, w) :: after := by
  have hindex := index_of_cut h
  rw [insert, put]
  split
  · next i hi =>
    obtain rfl : before.length = i := Option.some.inj (hindex.symm.trans hi)
    exact entries_modifyAt_of_cut h fun _ => w
  · next hnone => exact nomatch hindex.symm.trans hnone

end Cut

theorem entries_insert_of_not_mem {m : IdMap β} {id : String} (h : id ∉ m.keys) (v : β) :
    (m.insert id v).entries = m.entries ++ [(id, v)] := by
  have hindex := index_eq_none_iff.mpr h
  rw [insert, put]
  split
  · next i hi => exact nomatch hindex.symm.trans hi
  · rfl

/-! ## Entries and ids -/

theorem get?_eq_none_iff {m : IdMap β} {id : String} : m.get? id = none ↔ m.index id = none := by
  rw [get?]
  split
  · next i hi => simp [hi]
  · next hnone => simp [hnone]

/-- **The two views agree**: an id finds a value exactly when the two are an entry. -/
theorem get?_eq_some_iff {m : IdMap β} {id : String} {v : β} :
    m.get? id = some v ↔ (id, v) ∈ m.entries := by
  constructor
  · intro h
    have hindex : m.index id ≠ none := fun hnone => by
      rw [get?_eq_none_iff.mpr hnone] at h
      exact nomatch h
    obtain ⟨i, hi⟩ := Option.ne_none_iff_exists'.mp hindex
    obtain ⟨before, w, after, hcut, -⟩ := exists_cut hi
    obtain rfl : w = v := Option.some.inj ((get?_of_cut hcut).symm.trans h)
    rw [hcut]
    exact List.mem_append_right _ List.mem_cons_self
  · intro h
    obtain ⟨before, after, hcut⟩ := List.append_of_mem h
    exact get?_of_cut hcut

/-- A look-up by the index finds what a search of the list finds. -/
theorem get?_eq_lookup (m : IdMap β) (id : String) : m.get? id = m.entries.lookup id := by
  have hother : ∀ l : List (String × β), id ∉ l.map Prod.fst → l.lookup id = none := by
    intro l hl
    refine List.lookup_eq_none_iff.mpr fun e he => ?_
    have hne : id ≠ e.1 := fun heq => hl (heq ▸ List.mem_map_of_mem he)
    simpa using hne
  cases hi : m.index id with
  | none => rw [get?_eq_none_iff.mpr hi, hother m.entries (index_eq_none_iff.mp hi)]
  | some i =>
    obtain ⟨before, v, after, hcut, -⟩ := exists_cut hi
    rw [get?_of_cut hcut, hcut, List.lookup_append, hother before (not_mem_of_cut hcut).1,
      Option.none_or, List.lookup_cons_self]

theorem get?_of_mem {m : IdMap β} {e : String × β} (h : e ∈ m.entries) : m.get? e.1 = some e.2 :=
  get?_eq_some_iff.mpr h

/-- An id is present when it finds a value. -/
theorem mem_keys {m : IdMap β} {id : String} : id ∈ m.keys ↔ ∃ v, m.get? id = some v := by
  rw [keys, List.mem_map]
  constructor
  · rintro ⟨e, he, rfl⟩
    exact ⟨e.2, get?_of_mem he⟩
  · rintro ⟨v, h⟩
    exact ⟨(id, v), get?_eq_some_iff.mp h, rfl⟩

theorem mem_keys_of_get? {m : IdMap β} {id : String} {v : β} (h : m.get? id = some v) :
    id ∈ m.keys := mem_keys.mpr ⟨v, h⟩

theorem mem_values {m : IdMap β} {v : β} : v ∈ m.values ↔ ∃ id, m.get? id = some v := by
  rw [values, List.mem_map]
  constructor
  · rintro ⟨e, he, rfl⟩
    exact ⟨e.1, get?_of_mem he⟩
  · rintro ⟨id, h⟩
    exact ⟨(id, v), get?_eq_some_iff.mp h, rfl⟩

/-! ## Changing values -/

@[simp] theorem entries_map (f : β → γ) (m : IdMap β) :
    (m.map f).entries = m.entries.map fun e => (e.1, f e.2) := rfl

@[simp] theorem keys_map (f : β → γ) (m : IdMap β) : (m.map f).keys = m.keys :=
  keys_mapEntries _ m

theorem values_map (f : β → γ) (m : IdMap β) : (m.map f).values = m.values.map f := by
  rw [values, values, entries_map, List.map_map, List.map_map]
  rfl

/-- Changing values by id changes what an id finds, and nothing else. -/
theorem get?_mapEntries (f : String → β → γ) (m : IdMap β) (id : String) :
    (m.mapEntries f).get? id = (m.get? id).map (f id) := by
  cases hv : m.get? id with
  | none =>
    have hindex : m.index id = none := get?_eq_none_iff.mp hv
    exact (get?_eq_none_iff (m := m.mapEntries f)).mpr hindex
  | some v =>
    refine get?_eq_some_iff.mpr ?_
    rw [entries_mapEntries, List.mem_map]
    exact ⟨(id, v), get?_eq_some_iff.mp hv, rfl⟩

theorem get?_map (f : β → γ) (m : IdMap β) (id : String) :
    (m.map f).get? id = (m.get? id).map f := get?_mapEntries _ m id

theorem map_map (g : γ → δ) (f : β → γ) (m : IdMap β) : (m.map f).map g = m.map (g ∘ f) := by
  apply ext_entries
  rw [entries_map, entries_map, entries_map, List.map_map]
  rfl

theorem map_mapEntries (g : γ → δ) (f : String → β → γ) (m : IdMap β) :
    (m.mapEntries f).map g = m.mapEntries fun id v => g (f id v) := by
  apply ext_entries
  rw [entries_map, entries_mapEntries, entries_mapEntries, List.map_map]
  rfl

theorem mapEntries_map (g : String → γ → δ) (f : β → γ) (m : IdMap β) :
    (m.map f).mapEntries g = m.mapEntries fun id v => g id (f v) := by
  apply ext_entries
  rw [entries_mapEntries, entries_map, entries_mapEntries, List.map_map]
  rfl

theorem mapEntries_mapEntries (g : String → γ → δ) (f : String → β → γ) (m : IdMap β) :
    (m.mapEntries f).mapEntries g = m.mapEntries fun id v => g id (f id v) := by
  apply ext_entries
  rw [entries_mapEntries, entries_mapEntries, entries_mapEntries, List.map_map]
  rfl

/-- Two ways of changing values that agree on the entries of a map agree on the map. -/
theorem mapEntries_congr {f g : String → β → γ} {m : IdMap β}
    (h : ∀ e ∈ m.entries, f e.1 e.2 = g e.1 e.2) : m.mapEntries f = m.mapEntries g := by
  apply ext_entries
  rw [entries_mapEntries, entries_mapEntries]
  exact List.map_congr_left fun e he => by rw [h e he]

theorem map_congr {f g : β → γ} {m : IdMap β} (h : ∀ v ∈ m.values, f v = g v) :
    m.map f = m.map g :=
  mapEntries_congr fun _ he => h _ (List.mem_map_of_mem he)

/-- **Changing the value of one id, at its place, is changing values by id.** -/
theorem modify_eq_mapEntries (m : IdMap β) (id : String) (f : β → β) :
    m.modify id f = m.mapEntries fun k v => if k = id then f v else v := by
  have hother : ∀ l : List (String × β), id ∉ l.map Prod.fst →
      l.map (fun e => (e.1, if e.1 = id then f e.2 else e.2)) = l := by
    intro l hl
    refine (List.map_congr_left fun e he => ?_).trans (List.map_id _)
    have hne : e.1 ≠ id := fun heq => hl (heq ▸ List.mem_map_of_mem he)
    rw [if_neg hne]
    rfl
  apply ext_entries
  rw [entries_mapEntries]
  cases hi : m.index id with
  | none =>
    rw [hother m.entries (index_eq_none_iff.mp hi), modify, hi]
  | some i =>
    obtain ⟨before, v, after, hcut, -⟩ := exists_cut hi
    obtain ⟨hbefore, hafter⟩ := not_mem_of_cut hcut
    rw [entries_modify_of_cut hcut, hcut, List.map_append, List.map_cons, hother before hbefore,
      hother after hafter, if_pos rfl]

/-- A change that leaves every value of a map as it is leaves the map as it is. -/
theorem map_eq_self {f : β → β} {m : IdMap β} (h : ∀ v ∈ m.values, f v = v) : m.map f = m := by
  apply ext_entries
  rw [entries_map]
  refine (List.map_congr_left fun e he => ?_).trans (List.map_id _)
  rw [h e.2 (List.mem_map_of_mem he)]
  rfl

/-- A run through the values commutes with a change of values on either side, when every step
does. -/
theorem mapAccum_map {τ : Type} {f : σ → β → γ × σ} {f' : σ → δ → τ × σ} {g : β → δ} {h : γ → τ}
    (hf : ∀ s v, f' s (g v) = (h (f s v).1, (f s v).2)) (s : σ) (m : IdMap β) :
    (m.map g).mapAccum f' s = (m.mapAccum f s).map h := by
  have key : ∀ (l : List (String × β)) (s : σ),
      accumEntries f' s (l.map fun e => (e.1, g e.2)) =
        (accumEntries f s l).map fun e => (e.1, h e.2) := by
    intro l
    induction l with
    | nil => exact fun _ => rfl
    | cons e rest ih =>
      intro s
      rw [List.map_cons, accumEntries, hf, ih, accumEntries, List.map_cons]
  exact ext_entries (key m.entries s)

/-- A run through the values shows only what every step shows, whatever state runs along. -/
theorem map_mapAccum {f : σ → β → γ × σ} {g : γ → δ} {h : β → δ}
    (hf : ∀ s v, g (f s v).1 = h v) (s : σ) (m : IdMap β) : (m.mapAccum f s).map g = m.map h := by
  have key : ∀ (l : List (String × β)) (s : σ),
      (accumEntries f s l).map (fun e => (e.1, g e.2)) = l.map fun e => (e.1, h e.2) := by
    intro l
    induction l with
    | nil => exact fun _ => rfl
    | cons e rest ih =>
      intro s
      rw [accumEntries, List.map_cons, hf, ih, List.map_cons]
  exact ext_entries (key m.entries s)

/-! ## Inserting -/

/-- Replaces the value of an id in a list of entries, or appends the id. -/
def insertEntry (id : String) (v : β) : List (String × β) → List (String × β)
  | [] => [(id, v)]
  | (k, w) :: rest => if k = id then (k, v) :: rest else (k, w) :: insertEntry id v rest

theorem insertEntry_of_not_mem {id : String} {v : β} {l : List (String × β)}
    (h : id ∉ l.map Prod.fst) : insertEntry id v l = l ++ [(id, v)] := by
  induction l with
  | nil => rfl
  | cons e rest ih =>
    rw [List.map_cons, List.mem_cons, not_or] at h
    rw [insertEntry, if_neg fun heq => h.1 heq.symm, ih h.2, List.cons_append]

theorem insertEntry_of_cut {id : String} {v w : β} {before after : List (String × β)}
    (h : id ∉ before.map Prod.fst) :
    insertEntry id v (before ++ (id, w) :: after) = before ++ (id, v) :: after := by
  induction before with
  | nil => rw [List.nil_append, insertEntry, if_pos rfl, List.nil_append]
  | cons e rest ih =>
    rw [List.map_cons, List.mem_cons, not_or] at h
    rw [List.cons_append, insertEntry, if_neg fun heq => h.1 heq.symm, ih h.2, List.cons_append]

/-- **Inserting, seen on the list.** -/
theorem entries_insert (m : IdMap β) (id : String) (v : β) :
    (m.insert id v).entries = insertEntry id v m.entries := by
  cases hi : m.index id with
  | none =>
    have hnew := index_eq_none_iff.mp hi
    rw [entries_insert_of_not_mem hnew, insertEntry_of_not_mem hnew]
  | some i =>
    obtain ⟨before, w, after, hcut, -⟩ := exists_cut hi
    rw [entries_insert_of_cut hcut, hcut, insertEntry_of_cut (not_mem_of_cut hcut).1]

/-- Inserting a value under an id that is there is changing its value. -/
theorem modify_eq_insert {m : IdMap β} {id : String} {v : β} (h : m.get? id = some v)
    (f : β → β) : m.modify id f = m.insert id (f v) := by
  obtain ⟨before, after, hcut⟩ := List.append_of_mem (get?_eq_some_iff.mp h)
  apply ext_entries
  rw [entries_modify_of_cut hcut, entries_insert_of_cut hcut]

/-- A new id goes to the end, and an id that is there keeps its place. -/
theorem keys_insert (m : IdMap β) (id : String) (v : β) :
    (m.insert id v).keys = if id ∈ m.keys then m.keys else m.keys ++ [id] := by
  by_cases hid : id ∈ m.keys
  · obtain ⟨w, hw⟩ := mem_keys.mp hid
    rw [if_pos hid, ← modify_eq_insert hw fun _ => v, keys_modify]
  · rw [if_neg hid, keys, entries_insert_of_not_mem hid, List.map_append]
    rfl

/-- An insertion changes what its own id finds, and nothing else. -/
theorem get?_insert (m : IdMap β) (id : String) (v : β) (k : String) :
    (m.insert id v).get? k = if k = id then some v else m.get? k := by
  by_cases hid : id ∈ m.keys
  · obtain ⟨w, hw⟩ := mem_keys.mp hid
    rw [← modify_eq_insert hw fun _ => v, modify_eq_mapEntries, get?_mapEntries]
    by_cases hk : k = id
    · rw [hk, hw, if_pos rfl, Option.map_some, if_pos rfl]
    · simp [hk]
  · rw [get?_eq_lookup, entries_insert_of_not_mem hid, List.lookup_append, ← get?_eq_lookup]
    by_cases hk : k = id
    · rw [hk, get?_eq_none_iff.mpr (index_eq_none_iff.mpr hid), Option.none_or,
        List.lookup_cons_self, if_pos rfl]
    · rw [List.lookup_cons, beq_false_of_ne hk, List.lookup_nil, Option.or_none, if_neg hk]

/-- What an insertion takes the place of is the value that the id had. -/
theorem put_fst (m : IdMap β) (id : String) (v : β) : (m.put id v).1 = m.get? id := by
  rw [put, get?]
  split <;> rfl

/-! ## Maps from lists -/

theorem mem_insertEntry {id : String} {v : β} {l : List (String × β)} {e : String × β}
    (h : e ∈ insertEntry id v l) : e = (id, v) ∨ e ∈ l := by
  induction l with
  | nil => exact Or.inl (List.mem_singleton.mp h)
  | cons d rest ih =>
    rw [insertEntry] at h
    split at h
    · next hk =>
      rcases List.mem_cons.mp h with rfl | hrest
      · exact Or.inl (by rw [hk])
      · exact Or.inr (List.mem_cons_of_mem _ hrest)
    · rcases List.mem_cons.mp h with rfl | hrest
      · exact Or.inr List.mem_cons_self
      · exact (ih hrest).imp_right (List.mem_cons_of_mem _)

theorem mem_entries_insertAll {m : IdMap β} {l : List (String × β)} {e : String × β}
    (h : e ∈ (m.insertAll l).entries) : e ∈ m.entries ∨ e ∈ l := by
  induction l generalizing m with
  | nil => exact Or.inl h
  | cons d rest ih =>
    rcases ih (m := m.insert d.1 d.2) h with hm | hrest
    · rw [entries_insert] at hm
      rcases mem_insertEntry hm with rfl | hm
      · exact Or.inr List.mem_cons_self
      · exact Or.inl hm
    · exact Or.inr (List.mem_cons_of_mem _ hrest)

/-- Every entry of the map of a list comes from the list. -/
theorem mem_entries_ofList {l : List (String × β)} {e : String × β}
    (h : e ∈ (ofList l).entries) : e ∈ l :=
  (mem_entries_insertAll (m := empty) h).resolve_left List.not_mem_nil

theorem map_insertEntry (f : β → γ) (id : String) (v : β) (l : List (String × β)) :
    (insertEntry id v l).map (fun e => (e.1, f e.2)) =
      insertEntry id (f v) (l.map fun e => (e.1, f e.2)) := by
  induction l with
  | nil => rfl
  | cons d rest ih =>
    rw [insertEntry, List.map_cons, insertEntry]
    split
    · rfl
    · rw [List.map_cons, ih]

/-- Changing the values of the map of a list is changing the values of the list. -/
theorem map_ofList (f : β → γ) (l : List (String × β)) :
    (ofList l).map f = ofList (l.map fun e => (e.1, f e.2)) := by
  rw [ofList, ofList, List.foldl_map]
  refine (List.foldl_hom (fun m : IdMap β => m.map f) fun m e => ?_).symm
  apply ext_entries
  rw [entries_map, entries_insert, entries_insert, map_insertEntry, entries_map]

/-! ## Maps with the same ids -/

/-- Reading a map back along the ids of another one with the same ids gives the map. -/
theorem mapEntries_get? {m : IdMap β} {a : IdMap γ} (h : a.keys = m.keys) (d : γ) :
    (m.mapEntries fun id _ => (a.get? id).getD d) = a := by
  apply ext_entries
  have hkeys : (m.mapEntries fun id _ => (a.get? id).getD d).entries =
      m.keys.map fun id => (id, (a.get? id).getD d) := by
    rw [entries_mapEntries, keys, List.map_map]
    rfl
  rw [hkeys, ← h, keys, List.map_map]
  refine (List.map_congr_left fun e he => ?_).trans (List.map_id _)
  show (e.1, (a.get? e.1).getD d) = e
  rw [get?_of_mem he]
  rfl

/-- Two maps with the same ids, changed in ways that agree id by id, become the same map. -/
theorem mapEntries_eq_of_keys_eq {f : String → β → δ} {g : String → γ → δ} {a : IdMap β}
    {b : IdMap γ} (hkeys : a.keys = b.keys)
    (h : ∀ id v w, a.get? id = some v → b.get? id = some w → f id v = g id w) :
    a.mapEntries f = b.mapEntries g := by
  have hlength : a.entries.length = b.entries.length := by
    have h := congrArg List.length hkeys
    rwa [keys, keys, List.length_map, List.length_map] at h
  apply ext_entries
  refine List.ext_getElem ?_ fun n ha hb => ?_
  · rw [entries_mapEntries, entries_mapEntries, List.length_map, List.length_map, hlength]
  · simp only [entries_mapEntries, List.getElem_map]
    rw [entries_mapEntries, List.length_map] at ha hb
    have hid : a.entries[n].1 = b.entries[n].1 := by
      have hn := List.getElem_of_eq hkeys (i := n) (by rwa [keys, List.length_map])
      simpa only [keys, List.getElem_map] using hn
    have hv := get?_of_mem (List.getElem_mem ha)
    have hw := get?_of_mem (List.getElem_mem hb)
    rw [← hid] at hw ⊢
    rw [h _ _ _ hv hw]

/-- **Maps with the same ids in the same order that find the same are the same.** -/
theorem ext_get? {a b : IdMap β} (hkeys : a.keys = b.keys) (h : ∀ id, a.get? id = b.get? id) :
    a = b := by
  have hsame : a.mapEntries (fun _ v => v) = b.mapEntries fun _ v => v := by
    refine mapEntries_eq_of_keys_eq hkeys fun id v w hv hw => ?_
    rw [h id, hw] at hv
    exact (Option.some.inj hv).symm
  have hself : ∀ m : IdMap β, m.mapEntries (fun _ v => v) = m := fun m =>
    map_eq_self fun _ _ => rfl
  rwa [hself, hself] at hsame

end IdMap

end GridLayout
