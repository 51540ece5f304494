import GridLayout.Document.Record
import GridLayout.Proofs.FirstOccurrences
import GridLayout.Proofs.IdMap
import GridLayout.Proofs.Outcomes
import Mathlib.Data.List.Induction

/-!
# Histories of maps

A map starts from a list of entries, none for the empty map, and is changed from then on: by
inserting, and by changing values in place, those of one id or those of all in their order.  What
it holds after such a history is said here without list positions and without an index, by a log.
The log takes down every value that is inserted or written, with its id.  A write needs a value to
start from, and finds it in the log as the latest of its id.

One change of a map that holds what a log says leads to a map that holds what the longer log says
(`change_ofList`), so a history of changes leads to the map of its log (`after_eq_ofList`).  A loop
over all values is the only change that writes more than once; there the induction is on the entries
that the loop has not reached (`entries_ofList_sweep`).  The map of a log is known by id and by
order: its ids are the distinct ones, and each finds its latest value.

Loops are taken in one form, with the id of every value and with a state from one value to the next.
`mapEntries` leaves out the state and `mapAccum` the ids.

* `loop`, `mapEntries_eq_loop`, `mapAccum_eq_loop`: loops over all values.
* `Change`, `after`: what happens to a map, and the map that it leads to.
* `record`, `log`, `latest`: what is taken down, and what is read off.
* `keys_ofList`, `get?_ofList`: the map of a log.
* `eq_after_of_mapOf`, `alike_iff_listedAlike`: maps from documents, and maps that are alike.
* `after_inStep`: list and index of a map after any history.
-/

namespace GridLayout

namespace IdMap

variable {β σ : Type}

/-! ## Loops -/

/-- What a loop over entries leaves of them, in place. -/
def swept (f : σ → String → β → β × σ) : σ → List (String × β) → List (String × β)
  | _, [] => []
  | s, (id, v) :: rest => (id, (f s id v).1) :: swept f (f s id v).2 rest

theorem map_fst_swept (f : σ → String → β → β × σ) (l : List (String × β)) :
    ∀ s, (swept f s l).map Prod.fst = l.map Prod.fst := by
  induction l with
  | nil => exact fun _ => rfl
  | cons e rest ih =>
    intro s
    rw [swept, List.map_cons, ih, List.map_cons]

/-- Changes all values in place, one after another, each with its id and with a state that runs
along. -/
def loop (f : σ → String → β → β × σ) (s : σ) (m : IdMap β) : IdMap β where
  entries := swept f s m.entries
  index := m.index
  index_eq_some_iff := by
    rw [map_fst_swept]
    exact m.index_eq_some_iff

/-- A loop that takes nothing along. -/
theorem mapEntries_eq_loop (f : String → β → β) (m : IdMap β) :
    m.mapEntries f = m.loop (fun _ id v => (f id v, ())) () := by
  have hswept : ∀ l : List (String × β),
      l.map (fun e => (e.1, f e.1 e.2)) = swept (fun _ id v => (f id v, ())) () l := by
    intro l
    induction l with
    | nil => rfl
    | cons e rest ih => rw [swept, ← ih, List.map_cons]
  exact ext_entries (hswept m.entries)

/-- A loop that does not look at the ids. -/
theorem mapAccum_eq_loop (f : σ → β → β × σ) (s : σ) (m : IdMap β) :
    m.mapAccum f s = m.loop (fun s _ v => f s v) s := by
  have hswept : ∀ (l : List (String × β)) (s : σ),
      accumEntries f s l = swept (fun s _ v => f s v) s l := by
    intro l
    induction l with
    | nil => exact fun _ => rfl
    | cons e rest ih =>
      intro s
      rw [swept, ← ih, accumEntries]
  exact ext_entries (hswept m.entries s)

theorem keys_loop (f : σ → String → β → β × σ) (s : σ) (m : IdMap β) :
    (m.loop f s).keys = m.keys := map_fst_swept f m.entries s

/-! ## Histories -/

/-- A change of a map. -/
inductive Change (β : Type) : Type 1 where
  /-- A value is inserted. -/
  | insert (id : String) (v : β)
  /-- The value of an id is changed in place, if the id is there. -/
  | modify (id : String) (f : β → β)
  /-- All values are changed in place, one after another. -/
  | loop {σ : Type} (f : σ → String → β → β × σ) (s : σ)

/-- A map after a change. -/
def change (m : IdMap β) : Change β → IdMap β
  | .insert id v => m.insert id v
  | .modify id f => m.modify id f
  | .loop f s => m.loop f s

/-- The map that a list of entries and a history of changes lead to. -/
def after (start : List (String × β)) (history : List (Change β)) : IdMap β :=
  history.foldl change (ofList start)

/-- The id that a change inserts, if it inserts one. -/
def Change.inserted : Change β → List String
  | .insert id _ => [id]
  | .modify _ _ => []
  | .loop _ _ => []

/-- The ids that are inserted in a history, with repetitions. -/
def insertedIds (start : List (String × β)) (history : List (Change β)) : List String :=
  start.map Prod.fst ++ history.flatMap Change.inserted

/-! ## Logs -/

/-- The value that was taken down last for an id. -/
def latest (log : List (String × β)) (id : String) : Option β := log.reverse.lookup id

/-- A loop over ids writes, for one after another, a value made from the latest one. -/
def sweep (f : σ → String → β → β × σ) : σ → List String → List (String × β) → List (String × β)
  | _, [], log => log
  | s, id :: ids, log =>
    match latest log id with
    | some v => sweep f (f s id v).2 ids (log ++ [(id, (f s id v).1)])
    | none => sweep f s ids log

/-- A log with what a change inserts or writes. -/
def record (log : List (String × β)) : Change β → List (String × β)
  | .insert id v => log ++ [(id, v)]
  | .modify id f => sweep (fun _ _ v => (f v, ())) () [id] log
  | .loop f s => sweep f s (distinctIds (log.map Prod.fst)) log

/-- All that a history inserts and writes. -/
def log (start : List (String × β)) (history : List (Change β)) : List (String × β) :=
  history.foldl record start

/-! ## The map of a log -/

theorem ofList_append_singleton (l : List (String × β)) (id : String) (v : β) :
    ofList (l ++ [(id, v)]) = (ofList l).insert id v := by
  rw [ofList, List.foldl_append]
  rfl

/-- The ids of a log, each once, in the order in which they came. -/
theorem keys_ofList (l : List (String × β)) : (ofList l).keys = distinctIds (l.map Prod.fst) := by
  induction l using List.reverseRecOn with
  | nil => rfl
  | append_singleton l e ih =>
    rw [ofList_append_singleton, keys_insert, ih, List.map_append, List.map_cons, List.map_nil,
      distinctIds_append_singleton]
    simp only [mem_distinctIds]

/-- Every id finds its latest value. -/
theorem get?_ofList (l : List (String × β)) (id : String) : (ofList l).get? id = latest l id := by
  induction l using List.reverseRecOn with
  | nil => rfl
  | append_singleton l e ih =>
    rw [ofList_append_singleton, get?_insert, ih, latest, latest, List.reverse_append,
      List.reverse_singleton, List.singleton_append, List.lookup_cons]
    by_cases hid : id = e.1
    · rw [if_pos hid, beq_iff_eq.mpr hid]
    · rw [if_neg hid, beq_false_of_ne hid]

/-! ## One change -/

/-- **A loop changes the entries in place**, those that it has reached and then one after another
of the rest. -/
theorem entries_ofList_sweep (f : σ → String → β → β × σ) (rest : List (String × β)) :
    ∀ (reached : List (String × β)) (s : σ) (log : List (String × β)),
      (ofList log).entries = reached ++ rest →
      (ofList (sweep f s (rest.map Prod.fst) log)).entries = reached ++ swept f s rest := by
  induction rest with
  | nil =>
    intro reached s log h
    exact h
  | cons e rest ih =>
    intro reached s log h
    obtain ⟨id, v⟩ := e
    have hlatest : latest log id = some v := by rw [← get?_ofList, get?_of_cut h]
    have hwritten : (ofList (log ++ [(id, (f s id v).1)])).entries =
        (reached ++ [(id, (f s id v).1)]) ++ rest := by
      rw [ofList_append_singleton, entries_insert_of_cut h, List.append_assoc,
        List.singleton_append]
    rw [List.map_cons, sweep, hlatest, swept, ih _ _ _ hwritten, List.append_assoc,
      List.singleton_append]

/-- A loop over all ids changes all entries. -/
theorem entries_ofList_sweep_all (f : σ → String → β → β × σ) (s : σ) (log : List (String × β)) :
    (ofList (sweep f s (distinctIds (log.map Prod.fst)) log)).entries =
      swept f s (ofList log).entries := by
  rw [← keys_ofList]
  exact entries_ofList_sweep f (ofList log).entries [] s log rfl

/-- **One change of the map of a log** leads to the map of the log with what the change inserts or
writes. -/
theorem change_ofList (log : List (String × β)) (c : Change β) :
    (ofList log).change c = ofList (record log c) := by
  cases c with
  | insert id v => exact (ofList_append_singleton log id v).symm
  | modify id f =>
    rw [change, record, sweep]
    cases hv : latest log id with
    | none =>
      have hindex : (ofList log).index id = none := by
        rw [← get?_eq_none_iff, get?_ofList, hv]
      rw [modify, hindex]
      rfl
    | some v =>
      rw [modify_eq_insert ((get?_ofList log id).trans hv)]
      exact (ofList_append_singleton log id (f v)).symm
  | loop f s =>
    apply ext_entries
    rw [record, entries_ofList_sweep_all]
    rfl

/-! ## A whole history -/

theorem after_append_singleton (start : List (String × β)) (history : List (Change β))
    (c : Change β) : after start (history ++ [c]) = (after start history).change c := by
  rw [after, List.foldl_append]
  rfl

/-- **A history leads to the map of its log.** -/
theorem after_eq_ofList (start : List (String × β)) (history : List (Change β)) :
    after start history = ofList (log start history) := by
  rw [after, log]
  induction history generalizing start with
  | nil => rfl
  | cons c rest ih => rw [List.foldl_cons, List.foldl_cons, change_ofList, ih]

/-- Only an insertion brings an id. -/
theorem keys_change (m : IdMap β) (c : Change β) {ids : List String}
    (h : m.keys = distinctIds ids) : (m.change c).keys = distinctIds (ids ++ c.inserted) := by
  cases c with
  | insert id v =>
    rw [change, keys_insert, h, Change.inserted, distinctIds_append_singleton]
    simp only [mem_distinctIds]
  | modify id f => rw [change, keys_modify, Change.inserted, List.append_nil, h]
  | loop f s => rw [change, keys_loop, Change.inserted, List.append_nil, h]

theorem keys_foldl_change (history : List (Change β)) :
    ∀ (m : IdMap β) (ids : List String), m.keys = distinctIds ids →
      (history.foldl change m).keys = distinctIds (ids ++ history.flatMap Change.inserted) := by
  induction history with
  | nil =>
    intro m ids h
    rw [List.flatMap_nil, List.append_nil]
    exact h
  | cons c rest ih =>
    intro m ids h
    rw [List.foldl_cons, ih _ _ (keys_change m c h), List.flatMap_cons, List.append_assoc]

/-- **The ids of a map are those that were inserted**, in the order of their first insertion. -/
theorem keys_after (start : List (String × β)) (history : List (Change β)) :
    (after start history).keys = distinctIds (insertedIds start history) :=
  keys_foldl_change history (ofList start) _ (keys_ofList start)

/-! ## Equality -/

/-- Two maps list the same ids in the same order, with values that compare as the same. -/
def ListedAlike (same : β → β → Prop) (m n : IdMap β) : Prop :=
  List.Forall₂ (fun e d => e.1 = d.1 ∧ same e.2 d.2) m.entries n.entries

/-- Two maps are alike in both parts, the list and the index. -/
def Alike (same : β → β → Prop) (m n : IdMap β) : Prop := ListedAlike same m n ∧ m.index = n.index

/-- **The index makes no difference** to whether maps are alike. -/
theorem alike_iff_listedAlike {same : β → β → Prop} {m n : IdMap β} :
    Alike same m n ↔ ListedAlike same m n := by
  refine ⟨And.left, fun h => ⟨h, index_congr ?_⟩⟩
  rw [keys, keys, ← List.forall₂_eq_eq_eq, List.forall₂_map_left_iff, List.forall₂_map_right_iff]
  exact h.imp fun _ _ he => he.1

theorem eq_iff_entries_eq {m n : IdMap β} : m = n ↔ m.entries = n.entries :=
  ⟨congrArg entries, ext_entries⟩

/-! ## Maps from documents -/

/-- **A map that a document gives** is that of the entries that are read from its fields, in the
order in which they stand. -/
theorem eq_after_of_mapOf {format : Format} {expected : String} {read : Node → Except Fault β}
    {node : Node} {m : IdMap β} (h : node.mapOf format expected read = .ok m) :
    ∃ fields ending start, node.fields? = some (fields, ending) ∧
      List.Forall₂ (fun field e => field.1.text = .ok e.1 ∧ read field.2 = .ok e.2) fields start ∧
      m = after start [] := by
  rw [Node.mapOf] at h
  split at h
  · next fields ending hfields =>
    obtain ⟨start, hstart, h⟩ := bind_eq_ok_iff.mp h
    obtain ⟨-, -, h⟩ := bind_eq_ok_iff.mp h
    refine ⟨fields, ending, start, hfields, ?_, (Except.ok.inj h).symm⟩
    refine (forall₂_of_mapM_eq_ok hstart).imp fun field e he => ?_
    obtain ⟨id, hid, he⟩ := bind_eq_ok_iff.mp he
    obtain ⟨v, hv, he⟩ := bind_pure_eq_ok_iff.mp he
    rw [he]
    exact ⟨hid, hv⟩
  · exact nomatch h

/-! ## List and index -/

/-- A map whose list and index are in step with each other, with the ids that were inserted and with
the values that were taken down. -/
structure InStep (m : IdMap β) (inserted : List String) (log : List (String × β)) : Prop where
  /-- The entries have pairwise different ids. -/
  nodup : m.keys.Nodup
  /-- They are listed in the order of first insertion. -/
  order : FirstOccurrences inserted (fun _ => True) m.keys
  /-- The index leads to the places of the ids that are there. -/
  places : ∀ id i, m.index id = some i ↔ m.keys[i]? = some id
  /-- It leads to no place outside the list. -/
  inside : ∀ id i, m.index id = some i → i < m.entries.length
  /-- It leads nowhere from an id that was never inserted. -/
  missing : ∀ id, m.index id = none ↔ id ∉ inserted
  /-- An id finds what was taken down last for it. -/
  found : ∀ id, m.get? id = latest log id
  /-- The same is listed for it. -/
  listed : ∀ id v, (id, v) ∈ m.entries ↔ latest log id = some v
  /-- An insertion gives what it takes the place of. -/
  replaced : ∀ id v, (m.put id v).1 = latest log id

/-- **List and index stay in step**, after any history from any start: the ids are listed once, in
the order of first insertion, with the values inserted or written last, and the index leads to their
places.  Maps are alike when they list the same in the same order.  Changing values by `mapEntries`
or `mapAccum` leads to maps of this kind again, and maps from documents are of this kind. -/
theorem after_inStep (start : List (String × β)) (history : List (Change β)) :
    (after start history).InStep (insertedIds start history) (log start history) ∧
      (∀ (other : List (String × β)) (later : List (Change β)),
        (after start history = after other later ↔
          (after start history).entries = (after other later).entries) ∧
        ∀ same : β → β → Prop, Alike same (after start history) (after other later) ↔
          ListedAlike same (after start history) (after other later)) ∧
      (∀ f : String → β → β, (after start history).mapEntries f =
        after start (history ++ [.loop (fun _ id v => (f id v, ())) ()])) ∧
      (∀ (σ : Type) (f : σ → β → β × σ) (s : σ), (after start history).mapAccum f s =
        after start (history ++ [.loop (fun s _ v => f s v) s])) ∧
      ∀ (format : Format) (expected : String) (read : Node → Except Fault β) (node : Node)
        (m : IdMap β), node.mapOf format expected read = .ok m →
        ∃ fields ending entries, node.fields? = some (fields, ending) ∧
          List.Forall₂ (fun field e => field.1.text = .ok e.1 ∧ read field.2 = .ok e.2) fields
            entries ∧
          m = after entries [] := by
  have hkeys := keys_after start history
  have hfound : ∀ id, (after start history).get? id = latest (log start history) id := by
    intro id
    rw [after_eq_ofList, get?_ofList]
  refine ⟨⟨nodup_keys _, ?_, index_eq_some_iff _, fun _ _ => index_lt, ?_, hfound, ?_, ?_⟩,
    ?_, ?_, ?_, ?_⟩
  · rw [hkeys]
    exact firstOccurrences_distinctIds _
  · intro id
    rw [index_eq_none_iff, hkeys, mem_distinctIds]
  · intro id v
    rw [← get?_eq_some_iff, hfound]
  · intro id v
    rw [put_fst, hfound]
  · exact fun other later => ⟨eq_iff_entries_eq, fun same => alike_iff_listedAlike⟩
  · intro f
    rw [after_append_singleton, mapEntries_eq_loop]
    rfl
  · intro σ f s
    rw [after_append_singleton, mapAccum_eq_loop]
    rfl
  · exact fun format expected read node m h => eq_after_of_mapOf h

/-- An id that is inserted again keeps its place, and an id that is not there is not written. -/
example : (after [("a", 1), ("b", 2)] [.insert "c" 3, .insert "a" 10, .modify "d" (· + 1),
    .loop (fun n _ v => (v + n, n + 1)) 0]).entries = [("a", 10), ("b", 3), ("c", 5)] := rfl

end IdMap

end GridLayout
