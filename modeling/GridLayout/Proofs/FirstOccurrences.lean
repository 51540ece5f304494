import GridLayout.Proofs.Breakpoints
import GridLayout.Proofs.Ordering
import Mathlib.Data.List.Nodup

/-!
# First occurrences

Two parts of a solve take a list that may repeat itself and go by first mentions: the audit looks at
every breakpoint once, and ids in order come out once each.  Both lists are pinned by the same two
properties, whose members they have and how these are sorted, and nothing is left open by the two.

* `FirstOccurrences`: the members of a list that have a property, in the order of first mention.
* `FirstOccurrences.filter`: leaving out some of them keeps the order.
* `firstOccurrences_distinctBreakpoints`, `firstOccurrences_filter_distinctIds`: the two lists.
-/

namespace GridLayout

variable {β : Type} [DecidableEq β]

/-- The result holds the members of a list that have a property, sorted by first mention.  The
places of first mention go up strictly, so nothing comes twice. -/
structure FirstOccurrences (l : List β) (keep : β → Prop) (result : List β) : Prop where
  mem_iff : ∀ a, a ∈ result ↔ a ∈ l ∧ keep a
  sorted : result.Pairwise fun a b => l.idxOf a < l.idxOf b

namespace FirstOccurrences

variable {l result : List β} {keep : β → Prop}

/-- Leaving out some of the first occurrences keeps their order. -/
theorem filter (h : FirstOccurrences l keep result) (p : β → Prop) [DecidablePred p] :
    FirstOccurrences l (fun a => keep a ∧ p a) (result.filter fun a => decide (p a)) where
  mem_iff a := by rw [List.mem_filter, h.mem_iff, decide_eq_true_iff, and_assoc]
  sorted := h.sorted.filter _

end FirstOccurrences

/-- A list in the order of first mention stays so when something else is mentioned before. -/
theorem pairwise_idxOf_cons {head : β} {rest result : List β}
    (h : result.Pairwise fun a b => rest.idxOf a < rest.idxOf b) (hne : ∀ a ∈ result, a ≠ head) :
    result.Pairwise fun a b => (head :: rest).idxOf a < (head :: rest).idxOf b := by
  refine h.imp_of_mem fun {a b} ha hb hlt => ?_
  rw [List.idxOf_cons_ne _ (hne a ha).symm, List.idxOf_cons_ne _ (hne b hb).symm]
  exact Nat.succ_lt_succ hlt

/-- What is mentioned first of all comes first. -/
theorem idxOf_head_lt {head a : β} (rest : List β) (h : a ≠ head) :
    (head :: rest).idxOf head < (head :: rest).idxOf a := by
  rw [List.idxOf_cons_self, List.idxOf_cons_ne _ h.symm]
  exact Nat.succ_pos _

/-! ## Breakpoints -/

/-- **The audit goes by first mentions**: every breakpoint that is asked for, in the order in which
they are asked for. -/
theorem firstOccurrences_distinctBreakpoints (bps : List Breakpoint) :
    FirstOccurrences bps (fun _ => True) (distinctBreakpoints bps) where
  mem_iff _ := mem_distinctBreakpoints.trans (and_true _).symm.to_iff
  sorted := by
    induction bps with
    | nil => exact List.Pairwise.nil
    | cons bp rest ih =>
      have hne : ∀ other ∈ (distinctBreakpoints rest).filter fun other => decide (other ≠ bp),
          other ≠ bp := fun other h => of_decide_eq_true (List.mem_filter.mp h).2
      rw [distinctBreakpoints, List.pairwise_cons]
      exact ⟨fun other h => idxOf_head_lt rest (hne other h), pairwise_idxOf_cons (ih.filter _) hne⟩

/-! ## Ids -/

/-- A walk that keeps first occurrences keeps their order, whatever ids it has met before. -/
theorem pairwise_walkIds_singleton {ids : List String} :
    ∀ {seen : List String}, (walkIds (fun id => [id]) (fun _ => []) seen ids).Pairwise
      fun a b => ids.idxOf a < ids.idxOf b := by
  induction ids with
  | nil => exact List.Pairwise.nil
  | cons head rest ih =>
    intro seen
    rw [walkIds]
    split
    · next hseen =>
      refine pairwise_idxOf_cons ih fun id hid heq => ?_
      exact (mem_walkIds_singleton.mp hid).2 (heq ▸ hseen)
    · have hne : ∀ id ∈ walkIds (fun id => [id]) (fun _ => []) (head :: seen) rest, id ≠ head :=
        fun id hid heq => (mem_walkIds_singleton.mp hid).2 (heq ▸ List.mem_cons_self)
      rw [List.singleton_append, List.pairwise_cons]
      exact ⟨fun id hid => idxOf_head_lt rest (hne id hid), pairwise_idxOf_cons ih hne⟩

/-- **Distinct ids are first occurrences.** -/
theorem firstOccurrences_distinctIds (ids : List String) :
    FirstOccurrences ids (fun _ => True) (distinctIds ids) where
  mem_iff _ := mem_distinctIds.trans (and_true _).symm.to_iff
  sorted := pairwise_walkIds_singleton

/-- The ids of a list with a property, as first occurrences. -/
theorem firstOccurrences_filter_distinctIds (ids : List String) (p : String → Prop)
    [DecidablePred p] :
    FirstOccurrences ids p ((distinctIds ids).filter fun id => decide (p id)) := by
  simpa only [true_and] using (firstOccurrences_distinctIds ids).filter p

end GridLayout
