import GridLayout.Arrange.Section

/-!
# Ids in order

Putting ids in the order of a reference loses no id and repeats none, whatever the reference says.
What does not line up is reported, and nothing is reported exactly when the reference is a list of
the same ids without repetitions.

A walk through a list of ids carries the ids it has met.  All statements about walks are by
induction on the list, for any ids met before.

* `mem_walkIds_singleton`, `nodup_walkIds_singleton`: the walk that keeps first occurrences.
* `walkIds_eq_nil_iff`: a walk that always has something to say about a repetition says nothing
  exactly when there is none, and nothing to say about any first occurrence.
* `mem_orderIds`, `nodup_orderIds`: ids in order are the ids, each once.
* `orderIssues_eq_nil_iff`: when ids and reference line up.
* `SectionSpec.mem_memberIds`, `SectionSpec.nodup_memberIds`: the boxes of a section are enumerated,
  each once.
-/

namespace GridLayout

/-! ## Walks -/

section Walks

variable {β : Type} {first again : String → List β}

/-- The walk that keeps first occurrences meets every id that it has not met before. -/
theorem mem_walkIds_singleton {id : String} {ids : List String} :
    ∀ {seen : List String},
      id ∈ walkIds (fun id => [id]) (fun _ => []) seen ids ↔ id ∈ ids ∧ id ∉ seen := by
  induction ids with
  | nil => simp [walkIds]
  | cons head rest ih =>
    intro seen
    rw [walkIds]
    split
    · next hseen =>
      rw [List.nil_append, ih, List.mem_cons]
      constructor
      · rintro ⟨hrest, hnew⟩
        exact ⟨Or.inr hrest, hnew⟩
      · rintro ⟨rfl | hrest, hnew⟩
        · exact absurd hseen hnew
        · exact ⟨hrest, hnew⟩
    · next hnew =>
      rw [List.singleton_append, List.mem_cons, ih, List.mem_cons, List.mem_cons, not_or]
      constructor
      · rintro (rfl | ⟨hrest, -, hseen⟩)
        · exact ⟨Or.inl rfl, hnew⟩
        · exact ⟨Or.inr hrest, hseen⟩
      · rintro ⟨h, hseen⟩
        by_cases heq : id = head
        · exact Or.inl heq
        · exact Or.inr ⟨h.resolve_left heq, heq, hseen⟩

/-- The walk that keeps first occurrences repeats none. -/
theorem nodup_walkIds_singleton {ids : List String} :
    ∀ {seen : List String}, (walkIds (fun id => [id]) (fun _ => []) seen ids).Nodup := by
  induction ids with
  | nil => exact List.nodup_nil
  | cons head rest ih =>
    intro seen
    rw [walkIds]
    split
    · exact ih
    · rw [List.singleton_append, List.nodup_cons]
      refine ⟨fun h => ?_, ih⟩
      exact (mem_walkIds_singleton.mp h).2 List.mem_cons_self

/-- **A walk that says nothing** has met no id twice, and had nothing to say about any of them. -/
theorem walkIds_eq_nil_iff (hagain : ∀ id, again id ≠ []) {ids : List String} :
    ∀ {seen : List String}, walkIds first again seen ids = [] ↔
      ids.Nodup ∧ (∀ id ∈ ids, id ∉ seen) ∧ ∀ id ∈ ids, first id = [] := by
  induction ids with
  | nil => simp [walkIds]
  | cons head rest ih =>
    intro seen
    rw [walkIds]
    split
    · next hseen =>
      rw [List.append_eq_nil_iff]
      constructor
      · rintro ⟨h, -⟩
        exact absurd h (hagain head)
      · rintro ⟨-, hnew, -⟩
        exact absurd hseen (hnew head List.mem_cons_self)
    · next hnew =>
      rw [List.append_eq_nil_iff, ih, List.nodup_cons, List.forall_mem_cons, List.forall_mem_cons]
      constructor
      · rintro ⟨hhead, hnodup, hseen, hrest⟩
        refine ⟨⟨fun hmem => hseen head hmem List.mem_cons_self, hnodup⟩, ⟨hnew, ?_⟩, hhead, hrest⟩
        exact fun id hid hmem => hseen id hid (List.mem_cons_of_mem _ hmem)
      · rintro ⟨⟨hnotin, hnodup⟩, ⟨-, hseen⟩, hhead, hrest⟩
        refine ⟨hhead, hnodup, fun id hid hmem => ?_, hrest⟩
        rcases List.mem_cons.mp hmem with rfl | hmem
        · exact hnotin hid
        · exact hseen id hid hmem

/-- One more id at the end is walked as one that has been met, if it has been. -/
theorem walkIds_append_singleton (id : String) (ids : List String) :
    ∀ seen : List String, walkIds first again seen (ids ++ [id]) =
      walkIds first again seen ids ++ if id ∈ ids ∨ id ∈ seen then again id else first id := by
  induction ids with
  | nil =>
    intro seen
    simp [walkIds]
  | cons head rest ih =>
    intro seen
    rw [List.cons_append, walkIds, walkIds]
    by_cases hhead : head ∈ seen
    · have hmet : id ∈ rest ∨ id ∈ seen ↔ id ∈ head :: rest ∨ id ∈ seen := by
        rw [List.mem_cons, or_assoc, or_iff_right_of_imp fun heq => Or.inr (heq ▸ hhead)]
      rw [if_pos hhead, if_pos hhead, ih, List.append_assoc]
      simp only [hmet]
    · have hmet : id ∈ rest ∨ id ∈ head :: seen ↔ id ∈ head :: rest ∨ id ∈ seen := by
        rw [List.mem_cons, List.mem_cons, or_left_comm, or_assoc]
      rw [if_neg hhead, if_neg hhead, ih, List.append_assoc]
      simp only [hmet]

end Walks

/-! ## Distinct ids -/

theorem mem_distinctIds {id : String} {ids : List String} : id ∈ distinctIds ids ↔ id ∈ ids := by
  rw [distinctIds, mem_walkIds_singleton]
  simp

theorem nodup_distinctIds (ids : List String) : (distinctIds ids).Nodup := nodup_walkIds_singleton

/-- One more id at the end is one more distinct id, unless it has occurred. -/
theorem distinctIds_append_singleton (ids : List String) (id : String) :
    distinctIds (ids ++ [id]) =
      if id ∈ ids then distinctIds ids else distinctIds ids ++ [id] := by
  rw [distinctIds, walkIds_append_singleton, distinctIds]
  by_cases hid : id ∈ ids <;> simp [hid]

/-! ## Ids in the order of a reference -/

/-- **No id is lost and none is made up**, whatever the reference says. -/
theorem mem_orderIds {id : String} {ids reference : List String} :
    id ∈ orderIds ids reference ↔ id ∈ ids := by
  rw [orderIds, List.mem_append, List.mem_filter, List.mem_filter, mem_distinctIds, mem_distinctIds,
    decide_eq_true_iff, decide_eq_true_iff]
  constructor
  · rintro (⟨-, hid⟩ | ⟨hid, -⟩)
    · exact hid
    · exact hid
  · intro hid
    by_cases href : id ∈ reference
    · exact Or.inl ⟨href, hid⟩
    · exact Or.inr ⟨hid, href⟩

/-- **No id comes out twice**, whatever the two lists repeat. -/
theorem nodup_orderIds (ids reference : List String) : (orderIds ids reference).Nodup := by
  rw [orderIds, List.nodup_append]
  refine ⟨(nodup_distinctIds _).filter _, (nodup_distinctIds _).filter _, ?_⟩
  rintro id hid _ hother rfl
  have hin : id ∈ reference := mem_distinctIds.mp (List.mem_filter.mp hid).1
  exact of_decide_eq_true (List.mem_filter.mp hother).2 hin

/-- **Nothing is reported about an order** exactly when ids and reference list the same ids, each
of them once. -/
theorem orderIssues_eq_nil_iff {α : Type} {context : String} {ids reference : List String} :
    (orderIssues context ids reference : List (Issue α)) = [] ↔
      ids.Nodup ∧ reference.Nodup ∧ ∀ id, id ∈ reference ↔ id ∈ ids := by
  rw [orderIssues, List.append_eq_nil_iff, List.append_eq_nil_iff,
    walkIds_eq_nil_iff (fun _ => List.cons_ne_nil _ _),
    walkIds_eq_nil_iff (fun _ => List.cons_ne_nil _ _), List.map_eq_nil_iff, List.filter_eq_nil_iff]
  constructor
  · rintro ⟨⟨⟨hids, -, -⟩, hnodup, -, hforeign⟩, hleft⟩
    refine ⟨hids, hnodup, fun id => ⟨fun href => ?_, fun hid => ?_⟩⟩
    · refine Decidable.byContradiction fun hid => ?_
      have h := hforeign id href
      rw [if_neg hid] at h
      exact List.cons_ne_nil _ _ h
    · refine Decidable.byContradiction fun href => ?_
      exact hleft id (mem_distinctIds.mpr hid) (decide_eq_true href)
  · rintro ⟨hids, hnodup, hsame⟩
    refine ⟨⟨⟨hids, by simp, by simp⟩, hnodup, by simp, fun id href => if_pos ((hsame id).mp href)⟩,
      fun id hid href => ?_⟩
    exact of_decide_eq_true href ((hsame id).mpr (mem_distinctIds.mp hid))

/-! ## The boxes of a section -/

namespace SectionSpec

variable {α : Type} {s : SectionSpec α}

/-- **The boxes of a section are enumerated**, in whatever order it asks for. -/
theorem mem_memberIds {boxId : String} : boxId ∈ s.memberIds ↔ boxId ∈ s.boxes.keys := by
  rw [memberIds]
  split
  · exact mem_orderIds
  · rfl

/-- **No box is enumerated twice.** -/
theorem nodup_memberIds (s : SectionSpec α) : s.memberIds.Nodup := by
  rw [memberIds]
  split
  · exact nodup_orderIds _ _
  · exact s.boxes.nodup_keys

/-- Nothing is reported about the order of a section exactly when it asks for none, or lists its
boxes, each once. -/
theorem orderIssues_eq_nil_iff {sectionId : String} :
    s.orderIssues sectionId = [] ↔ ∀ reference, s.order = some reference →
      reference.Nodup ∧ ∀ id, id ∈ reference ↔ id ∈ s.boxes.keys := by
  rw [orderIssues]
  cases h : s.order with
  | none => simp
  | some reference =>
    simp only [Option.some.injEq, forall_eq']
    exact GridLayout.orderIssues_eq_nil_iff.trans (and_iff_right s.boxes.nodup_keys)

end SectionSpec

end GridLayout
