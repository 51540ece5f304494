import GridLayout.Proofs.FirstOccurrences

/-!
# Ids in the order of a reference

Ids in order are two lists of first occurrences, one after the other: what the reference names, in
its order, and what it does not name, in the order of the ids.  What does not line up is reported.
There are two kinds of reports, and each kind, taken for itself, is again a list of ids: those that
are repeated, as often as they are, and those that are in one list only, once each.

The reports of the reference come mixed, because it is read once for both kinds.  A walk through ids
is taken apart by asking it less: what remains of a walk when some of its answers are left out is
the walk with these answers left out (`walkIds_filter`).

* `count_repeatedIds`: how often an id is repeated.
* `filter_orderRepeated`, `filter_orderMismatch`: the two kinds of reports.
* `orderIds_orderIds`: ids in order stay as they are.
* `orderIds_inReferenceOrder`, `orderIds_reported`: the order and the reports.
-/

namespace GridLayout

/-! ## Walks -/

section Walks

variable {β γ : Type} (first again : String → List β) (seen ids : List String)

/-- Leaving out answers of a walk. -/
theorem walkIds_filter (p : β → Bool) :
    (walkIds first again seen ids).filter p =
      walkIds (fun id => (first id).filter p) (fun id => (again id).filter p) seen ids := by
  induction ids generalizing seen with
  | nil => rfl
  | cons head rest ih =>
    rw [walkIds, walkIds]
    split
    · rw [List.filter_append, ih]
    · rw [List.filter_append, ih]

/-- Changing the answers of a walk. -/
theorem map_walkIds (f : β → γ) :
    (walkIds first again seen ids).map f =
      walkIds (fun id => (first id).map f) (fun id => (again id).map f) seen ids := by
  induction ids generalizing seen with
  | nil => rfl
  | cons head rest ih =>
    rw [walkIds, walkIds]
    split
    · rw [List.map_append, ih]
    · rw [List.map_append, ih]

/-- A walk without answers. -/
theorem walkIds_nil : walkIds (fun _ => ([] : List β)) (fun _ => []) seen ids = [] := by
  induction ids generalizing seen with
  | nil => rfl
  | cons head rest ih =>
    rw [walkIds]
    split
    · exact ih seen
    · exact ih (head :: seen)

/-- A walk with one answer to every first occurrence outside a list. -/
theorem walkIds_outside (outside : List String) (f : String → β) :
    walkIds (fun id => if id ∈ outside then [] else [f id]) (fun _ => []) [] ids =
      ((distinctIds ids).filter fun id => decide (id ∉ outside)).map f := by
  rw [distinctIds, walkIds_filter, map_walkIds]
  refine congrArg (fun first => walkIds first (fun _ => []) [] ids) (funext fun id => ?_)
  by_cases hid : id ∈ outside
  · simp [hid]
  · simp [hid]

end Walks

/-! ## Repeated ids -/

/-- The further occurrences of the ids of a list, in its order. -/
def repeatedIds (ids : List String) : List String :=
  walkIds (fun _ => []) (fun id => [id]) [] ids

/-- A walk past first occurrences meets an id as often as it occurs, but for the first time. -/
theorem count_walkIds_again (ids : List String) (id : String) :
    ∀ {seen : List String}, (walkIds (fun _ => []) (fun id => [id]) seen ids).count id =
      if id ∈ seen then ids.count id else ids.count id - 1 := by
  induction ids with
  | nil => intro seen; simp [walkIds]
  | cons head rest ih =>
    intro seen
    by_cases hid : head = id
    · subst hid
      by_cases hseen : head ∈ seen
      · rw [walkIds, if_pos hseen, if_pos hseen, List.singleton_append, List.count_cons_self,
          List.count_cons_self, ih, if_pos hseen]
      · rw [walkIds, if_neg hseen, if_neg hseen, List.nil_append, List.count_cons_self, ih,
          if_pos List.mem_cons_self, Nat.add_sub_cancel]
    · by_cases hseen : head ∈ seen
      · rw [walkIds, if_pos hseen, List.singleton_append, List.count_cons_of_ne hid,
          List.count_cons_of_ne hid, ih]
      · rw [walkIds, if_neg hseen, List.nil_append, List.count_cons_of_ne hid, ih]
        simp only [List.mem_cons, Ne.symm hid, false_or]

/-- **An id is repeated as often as it occurs**, but for the first time. -/
theorem count_repeatedIds (ids : List String) (id : String) :
    (repeatedIds ids).count id = ids.count id - 1 := by
  rw [repeatedIds, count_walkIds_again, if_neg List.not_mem_nil]

/-! ## The two kinds of reports -/

section

variable {α : Type} (context : String) (ids reference : List String)

/-- **The reports of repeated ids**: those of the ids, and then those of the reference. -/
theorem filter_orderRepeated :
    (orderIssues context ids reference : List (Issue α)).filter (·.code == .duplicateKind) =
      (repeatedIds ids).map (.orderRepeated context · .ids) ++
        (repeatedIds reference).map (.orderRepeated context · .reference) := by
  have hfirst : ∀ id, (if id ∈ ids then [] else [Issue.orderMismatch context id .ids] :
      List (Issue α)).filter (·.code == .duplicateKind) = [] := by
    intro id
    split
    · rfl
    · rfl
  have hleft : (((distinctIds ids).filter (fun id => decide (id ∉ reference))).map
      (.orderMismatch context · .reference) : List (Issue α)).filter (·.code == .duplicateKind) =
        [] := by
    rw [List.filter_map, List.map_eq_nil_iff]
    exact List.filter_eq_nil_iff.mpr fun _ _ => Bool.false_ne_true
  rw [orderIssues, List.filter_append, List.filter_append, hleft, List.append_nil, walkIds_filter,
    walkIds_filter, repeatedIds, repeatedIds, map_walkIds, map_walkIds]
  simp only [hfirst]
  rfl

/-- **The reports of ids that are in one list only**: what is not among the ids, and then what is
not in the reference. -/
theorem filter_orderMismatch :
    (orderIssues context ids reference : List (Issue α)).filter (·.code == .nodeOrderMismatch) =
      ((distinctIds reference).filter (fun id => decide (id ∉ ids))).map
          (.orderMismatch context · .ids) ++
        ((distinctIds ids).filter (fun id => decide (id ∉ reference))).map
          (.orderMismatch context · .reference) := by
  have hfirst : ∀ id, (if id ∈ ids then [] else [Issue.orderMismatch context id .ids] :
      List (Issue α)).filter (·.code == .nodeOrderMismatch) =
        if id ∈ ids then [] else [.orderMismatch context id .ids] := by
    intro id
    split
    · rfl
    · rfl
  have hids : (walkIds (fun _ => []) (fun id => [.orderRepeated context id .ids]) [] ids :
      List (Issue α)).filter (·.code == .nodeOrderMismatch) = [] :=
    (walkIds_filter ..).trans (walkIds_nil ..)
  have hleft : (((distinctIds ids).filter (fun id => decide (id ∉ reference))).map
      (.orderMismatch context · .reference) : List (Issue α)).filter
        (·.code == .nodeOrderMismatch) =
          ((distinctIds ids).filter (fun id => decide (id ∉ reference))).map
            (.orderMismatch context · .reference) :=
    List.filter_eq_self.mpr (List.forall_mem_map.mpr fun _ _ => rfl)
  rw [orderIssues, List.filter_append, List.filter_append, hids, List.nil_append, hleft,
    walkIds_filter, ← walkIds_outside reference ids]
  simp only [hfirst]
  rfl

end

/-! ## The order -/

theorem distinctIds_of_nodup {ids : List String} (h : ids.Nodup) : distinctIds ids = ids := by
  have hwalk : ∀ {rest seen : List String}, rest.Nodup → (∀ id ∈ rest, id ∉ seen) →
      walkIds (fun id => [id]) (fun _ => []) seen rest = rest := by
    intro rest
    induction rest with
    | nil => intros; rfl
    | cons head rest ih =>
      intro seen hnodup hnew
      rw [List.nodup_cons] at hnodup
      rw [walkIds, if_neg (hnew head List.mem_cons_self), List.singleton_append, ih hnodup.2]
      intro id hid hseen
      rcases List.mem_cons.mp hseen with rfl | hseen
      · exact hnodup.1 hid
      · exact hnew id (List.mem_cons_of_mem _ hid) hseen
  exact hwalk h fun _ _ => List.not_mem_nil

/-- **Ids in order stay as they are** under the same reference. -/
theorem orderIds_orderIds (ids reference : List String) :
    orderIds (orderIds ids reference) reference = orderIds ids reference := by
  have hnamed : (distinctIds reference).filter (fun id => decide (id ∈ orderIds ids reference)) =
      (distinctIds reference).filter fun id => decide (id ∈ ids) :=
    List.filter_congr fun id _ => decide_eq_decide.mpr mem_orderIds
  have hnone : ((distinctIds reference).filter fun id => decide (id ∈ ids)).filter
      (fun id => decide (id ∉ reference)) = [] :=
    List.filter_eq_nil_iff.mpr fun id hid hother =>
      of_decide_eq_true hother (mem_distinctIds.mp (List.mem_filter.mp hid).1)
  have hothers : (orderIds ids reference).filter (fun id => decide (id ∉ reference)) =
      (distinctIds ids).filter fun id => decide (id ∉ reference) := by
    rw [orderIds, List.filter_append, hnone, List.nil_append, List.filter_filter]
    simp only [Bool.and_self]
  calc orderIds (orderIds ids reference) reference
    _ = (distinctIds reference).filter (fun id => decide (id ∈ orderIds ids reference)) ++
          (distinctIds (orderIds ids reference)).filter (fun id => decide (id ∉ reference)) := rfl
    _ = (distinctIds reference).filter (fun id => decide (id ∈ ids)) ++
          (distinctIds ids).filter (fun id => decide (id ∉ reference)) := by
        rw [hnamed, distinctIds_of_nodup (nodup_orderIds ids reference), hothers]
    _ = orderIds ids reference := rfl

/-- Ids in the order of a reference: every id once, those that the reference names before all
others, in the order in which it names them, and the others in their own. -/
structure InReferenceOrder (ids reference ordered : List String) : Prop where
  nodup : ordered.Nodup
  mem_iff : ∀ id, id ∈ ordered ↔ id ∈ ids
  split : ∃ named others, ordered = named ++ others ∧
    FirstOccurrences reference (· ∈ ids) named ∧ FirstOccurrences ids (· ∉ reference) others

theorem orderIds_inReferenceOrder (ids reference : List String) :
    InReferenceOrder ids reference (orderIds ids reference) where
  nodup := nodup_orderIds ids reference
  mem_iff _ := mem_orderIds
  split := ⟨_, _, rfl, firstOccurrences_filter_distinctIds reference (· ∈ ids),
    firstOccurrences_filter_distinctIds ids (· ∉ reference)⟩

/-! ## The reports -/

section

variable {α : Type} [Scalar α]

/-- What there is to report about ids and a reference, all of it warnings: an id for every
occurrence after its first, in either list, and an id that is in one list only, once. -/
structure OrderReported (context : String) (ids reference : List String)
    (reports : List (Diagnostic α)) : Prop where
  warning : ∀ report ∈ reports, report.severity = .warning
  code : ∀ report ∈ reports, report.code = .duplicateKind ∨ report.code = .nodeOrderMismatch
  repeated : ∃ again againReference : List String,
    (∀ id, again.count id = ids.count id - 1) ∧
      (∀ id, againReference.count id = reference.count id - 1) ∧
      Diagnostic.withCode reports .duplicateKind =
        again.map (fun id => (Issue.orderRepeated context id .ids).diagnostic) ++
          againReference.map fun id => (Issue.orderRepeated context id .reference).diagnostic
  mismatched : ∃ foreign unnamed : List String,
    FirstOccurrences reference (· ∉ ids) foreign ∧
      FirstOccurrences ids (· ∉ reference) unnamed ∧
      Diagnostic.withCode reports .nodeOrderMismatch =
        foreign.map (fun id => (Issue.orderMismatch context id .ids).diagnostic) ++
          unnamed.map fun id => (Issue.orderMismatch context id .reference).diagnostic

omit [Scalar α] in
/-- Nothing but repetitions and mismatches is reported. -/
theorem code_orderIssues {context : String} {ids reference : List String} {issue : Issue α}
    (h : issue ∈ orderIssues context ids reference) :
    issue.code = .duplicateKind ∨ issue.code = .nodeOrderMismatch := by
  have horigin := origin_orderIssues h
  cases issue with
  | orderRepeated => exact Or.inl rfl
  | orderMismatch => exact Or.inr rfl
  | _ => exact nomatch horigin

theorem orderIssues_orderReported (context : String) (ids reference : List String) :
    OrderReported context ids reference
      ((orderIssues context ids reference : List (Issue α)).map Issue.diagnostic) where
  warning := by
    refine List.forall_mem_map.mpr fun issue h => ?_
    have horigin := origin_orderIssues h
    cases issue with
    | orderRepeated => rfl
    | orderMismatch => rfl
    | _ => exact nomatch horigin
  code := List.forall_mem_map.mpr fun _ h => code_orderIssues h
  repeated := by
    refine ⟨repeatedIds ids, repeatedIds reference, count_repeatedIds ids,
      count_repeatedIds reference, ?_⟩
    rw [Issue.withCode_map_diagnostic, filter_orderRepeated, List.map_append, List.map_map,
      List.map_map]
    rfl
  mismatched := by
    refine ⟨_, _, firstOccurrences_filter_distinctIds reference (· ∉ ids),
      firstOccurrences_filter_distinctIds ids (· ∉ reference), ?_⟩
    rw [Issue.withCode_map_diagnostic, filter_orderMismatch, List.map_append, List.map_map,
      List.map_map]
    rfl

/-- **Ids in the order of a reference**, whatever the two lists repeat, miss or hold besides: the
order, and what is reported about it.  Silence means that the two lists have the same members, each
once, and ids in order stay as they are. -/
theorem orderIds_reported (context : String) (ids reference : List String) :
    InReferenceOrder ids reference (orderIds ids reference) ∧
      OrderReported context ids reference
        ((orderIssues context ids reference : List (Issue α)).map Issue.diagnostic) ∧
      ((orderIssues context ids reference : List (Issue α)).map Issue.diagnostic = [] ↔
        ids.Nodup ∧ reference.Nodup ∧ ∀ id, id ∈ reference ↔ id ∈ ids) ∧
      orderIds (orderIds ids reference) reference = orderIds ids reference :=
  ⟨orderIds_inReferenceOrder ids reference, orderIssues_orderReported context ids reference,
    List.map_eq_nil_iff.trans orderIssues_eq_nil_iff, orderIds_orderIds ids reference⟩

end

end GridLayout
