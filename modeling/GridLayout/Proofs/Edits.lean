import Mathlib.Order.Bounds.Basic
import Mathlib.Order.MinMax

/-!
# Edits of a list

An edit inserts, deletes or replaces one element, anywhere in a list.  `Edits n a b` says that `n`
edits in a row lead from `a` to `b`, and `FewestEdits a b n` that no smaller number does.

Edits in a row may undo each other and come back to the same place any number of times, so they say
little about the two lists they connect.  An alignment does: it is read off both lists from left to
right, each element once.  The two count alike.  An alignment is a list of edits, and an edit before
an alignment can be worked into it at the cost of at most one (`Aligned.of_edit`), because only the
part of the alignment below the edited element changes.

* `Edits.trans`, `Edits.symm`, `edits_zero_iff`: edits as steps between lists.
* `Edits.exists_aligned`, `Aligned.edits`: edits against alignments.
* `fewestEdits_nil`, `FewestEdits.cons`: how the least number of edits is found from those of
  shorter lists.
-/

namespace GridLayout

variable {α : Type} {a b c x y : List α} {m n : Nat} {d e : α}

/-! ## Edits -/

/-- One element is inserted, deleted or replaced. -/
inductive Edit : List α → List α → Prop
  | insert (x : List α) (d : α) (y : List α) : Edit (x ++ y) (x ++ d :: y)
  | delete (x : List α) (d : α) (y : List α) : Edit (x ++ d :: y) (x ++ y)
  | replace (x : List α) (d e : α) (y : List α) : Edit (x ++ d :: y) (x ++ e :: y)

/-- A number of edits, one after another. -/
inductive Edits : Nat → List α → List α → Prop
  | none (a : List α) : Edits 0 a a
  | more {n : Nat} {a b c : List α} (first : Edit a b) (later : Edits n b c) : Edits (n + 1) a c

theorem Edit.symm (h : Edit a b) : Edit b a := by
  cases h with
  | insert x d y => exact .delete x d y
  | delete x d y => exact .insert x d y
  | replace x d e y => exact .replace x e d y

theorem Edit.cons (d : α) (h : Edit a b) : Edit (d :: a) (d :: b) := by
  cases h with
  | insert x e y => exact .insert (d :: x) e y
  | delete x e y => exact .delete (d :: x) e y
  | replace x e e' y => exact .replace (d :: x) e e' y

theorem Edit.reverse (h : Edit a b) : Edit a.reverse b.reverse := by
  have hmid : ∀ (x : List α) (d : α) (y : List α),
      (x ++ d :: y).reverse = y.reverse ++ d :: x.reverse := fun x d y => by
    rw [List.reverse_append, List.reverse_cons, List.append_assoc, List.singleton_append]
  cases h with
  | insert x d y =>
    rw [hmid, List.reverse_append]
    exact .insert y.reverse d x.reverse
  | delete x d y =>
    rw [hmid, List.reverse_append]
    exact .delete y.reverse d x.reverse
  | replace x d e y =>
    rw [hmid, hmid]
    exact .replace y.reverse d e x.reverse

namespace Edits

theorem one (h : Edit a b) : Edits 1 a b := .more h (.none b)

theorem trans (h : Edits m a b) (h' : Edits n b c) : Edits (m + n) a c := by
  induction h with
  | none a =>
    rw [Nat.zero_add]
    exact h'
  | more first _ ih =>
    rw [Nat.succ_add]
    exact .more first (ih h')

theorem symm (h : Edits n a b) : Edits n b a := by
  induction h with
  | none a => exact .none a
  | more first _ ih => exact ih.trans (one first.symm)

theorem cons (d : α) (h : Edits n a b) : Edits n (d :: a) (d :: b) := by
  induction h with
  | none a => exact .none (d :: a)
  | more first _ ih => exact .more (first.cons d) ih

theorem reverse (h : Edits n a b) : Edits n a.reverse b.reverse := by
  induction h with
  | none a => exact .none a.reverse
  | more first _ ih => exact .more first.reverse ih

end Edits

theorem edits_zero_iff : Edits 0 a b ↔ a = b := by
  constructor
  · rintro ⟨⟩
    rfl
  · rintro rfl
    exact .none a

/-! ## Alignments -/

/-- Two lists one below the other.  An element stands above the same element, above another one,
above a gap, or below one; the number counts all but the first kind. -/
inductive Aligned : Nat → List α → List α → Prop
  | nil : Aligned 0 [] []
  | same {n : Nat} {a b : List α} (d : α) (h : Aligned n a b) : Aligned n (d :: a) (d :: b)
  | replaced {n : Nat} {a b : List α} (d e : α) (h : Aligned n a b) :
    Aligned (n + 1) (d :: a) (e :: b)
  | deleted {n : Nat} {a b : List α} (d : α) (h : Aligned n a b) : Aligned (n + 1) (d :: a) b
  | inserted {n : Nat} {a b : List α} (e : α) (h : Aligned n a b) : Aligned (n + 1) a (e :: b)

namespace Aligned

theorem refl (a : List α) : Aligned 0 a a := by
  induction a with
  | nil => exact .nil
  | cons d a ih => exact .same d ih

/-- Every element of a list is inserted. -/
theorem nil_left (b : List α) : Aligned b.length [] b := by
  induction b with
  | nil => exact .nil
  | cons e b ih => exact .inserted e ih

theorem length_le (h : Aligned n a b) : b.length ≤ n + a.length := by
  induction h with
  | nil => exact le_rfl
  | same | replaced | deleted | inserted =>
    simp only [List.length_cons]
    omega

theorem append (h : Aligned m a b) (h' : Aligned n x y) : Aligned (m + n) (a ++ x) (b ++ y) := by
  induction h with
  | nil =>
    rw [Nat.zero_add]
    exact h'
  | same d _ ih => exact .same d ih
  | replaced d e _ ih =>
    rw [Nat.succ_add]
    exact .replaced d e ih
  | deleted d _ ih =>
    rw [Nat.succ_add]
    exact .deleted d ih
  | inserted e _ ih =>
    rw [Nat.succ_add]
    exact .inserted e ih

/-- An alignment of a list that begins with `d` begins with one of `d` alone. -/
theorem exists_append_of_cons (h : Aligned n (d :: a) b) :
    ∃ m k b₁ b₂, n = m + k ∧ b = b₁ ++ b₂ ∧ Aligned m [d] b₁ ∧ Aligned k a b₂ := by
  generalize hda : d :: a = l at h
  induction h with
  | nil => exact absurd hda (List.cons_ne_nil d a)
  | @same n _ b e h _ =>
    obtain ⟨rfl, rfl⟩ := List.cons.inj hda
    exact ⟨0, n, [d], b, (Nat.zero_add n).symm, rfl, refl [d], h⟩
  | @replaced n _ b _ e h _ =>
    obtain ⟨rfl, rfl⟩ := List.cons.inj hda
    exact ⟨1, n, [e], b, Nat.add_comm n 1, rfl, .replaced d e .nil, h⟩
  | @deleted n _ b _ h _ =>
    obtain ⟨rfl, rfl⟩ := List.cons.inj hda
    exact ⟨1, n, [], b, Nat.add_comm n 1, rfl, .deleted d .nil, h⟩
  | inserted e _ ih =>
    obtain ⟨m, k, b₁, b₂, rfl, rfl, hd, ha⟩ := ih hda
    exact ⟨m + 1, k, e :: b₁, b₂, (Nat.succ_add m k).symm, rfl, .inserted e hd, ha⟩

/-- An alignment of a list in two parts is one of each part. -/
theorem exists_append (h : Aligned n (x ++ a) b) :
    ∃ m k b₁ b₂, n = m + k ∧ b = b₁ ++ b₂ ∧ Aligned m x b₁ ∧ Aligned k a b₂ := by
  induction x generalizing n b with
  | nil => exact ⟨0, n, [], b, (Nat.zero_add n).symm, rfl, .nil, h⟩
  | cons d x ih =>
    obtain ⟨m, k, b₁, b₂, rfl, rfl, hd, hrest⟩ := exists_append_of_cons h
    obtain ⟨k₁, k₂, b₂, b₃, rfl, rfl, hx, ha⟩ := ih hrest
    exact ⟨m + k₁, k₂, b₁ ++ b₂, b₃, (Nat.add_assoc m k₁ k₂).symm,
      (List.append_assoc b₁ b₂ b₃).symm, hd.append hx, ha⟩

/-- One element can stand above any list, at no more cost than what is below another one and one
more. -/
theorem exists_of_singleton (e : α) (h : Aligned n [d] b) : ∃ m ≤ n + 1, Aligned m [e] b := by
  have hlength : b.length ≤ n + 1 := h.length_le
  cases b with
  | nil => exact ⟨1, Nat.succ_le_succ (Nat.zero_le n), .deleted e .nil⟩
  | cons d' b => exact ⟨b.length + 1, hlength, .replaced e d' (nil_left b)⟩

/-- **An edit before an alignment** costs at most one. -/
theorem of_edit (hedit : Edit a b) (h : Aligned n b c) : ∃ m ≤ n + 1, Aligned m a c := by
  cases hedit with
  | insert x d y =>
    obtain ⟨m, k, c₁, c₂, rfl, rfl, hx, hrest⟩ := h.exists_append
    obtain ⟨k₁, k₂, c₂, c₃, rfl, rfl, hd, hy⟩ := hrest.exists_append_of_cons
    have hlength : c₂.length ≤ k₁ + 1 := hd.length_le
    exact ⟨m + (c₂.length + k₂), by omega, hx.append ((nil_left c₂).append hy)⟩
  | delete x d y =>
    obtain ⟨m, k, c₁, c₂, rfl, rfl, hx, hy⟩ := h.exists_append
    exact ⟨m + (k + 1), le_rfl, hx.append (.deleted d hy)⟩
  | replace x d e y =>
    obtain ⟨m, k, c₁, c₂, rfl, rfl, hx, hrest⟩ := h.exists_append
    obtain ⟨k₁, k₂, c₂, c₃, rfl, rfl, he, hy⟩ := hrest.exists_append_of_cons
    obtain ⟨k, hk, hd⟩ := he.exists_of_singleton d
    exact ⟨m + (k + k₂), by omega, hx.append (hd.append hy)⟩

/-- An alignment is carried out by as many edits as it counts. -/
theorem edits (h : Aligned n a b) : Edits n a b := by
  induction h with
  | nil => exact .none []
  | same d _ ih => exact ih.cons d
  | @replaced _ a _ d e _ ih => exact .more (.replace [] d e a) (ih.cons e)
  | @deleted _ a _ d _ ih => exact .more (.delete [] d a) ih
  | @inserted _ a _ e _ ih => exact .more (.insert [] e a) (ih.cons e)

end Aligned

/-- **Edits in a row come to an alignment** that counts no more of them. -/
theorem Edits.exists_aligned (h : Edits n a b) : ∃ m ≤ n, Aligned m a b := by
  induction h with
  | none a => exact ⟨0, le_rfl, .refl a⟩
  | more first _ ih =>
    obtain ⟨m, hm, haligned⟩ := ih
    obtain ⟨k, hk, h⟩ := haligned.of_edit first
    exact ⟨k, hk.trans (Nat.succ_le_succ hm), h⟩

/-! ## The least number of edits -/

/-- The least number of edits that lead from one list to another. -/
def FewestEdits (a b : List α) (n : Nat) : Prop := IsLeast {k | Edits k a b} n

namespace FewestEdits

theorem unique (h : FewestEdits a b m) (h' : FewestEdits a b n) : m = n := IsLeast.unique h h'

theorem symm (h : FewestEdits a b n) : FewestEdits b a n :=
  ⟨h.1.symm, fun _ hk => h.2 hk.symm⟩

theorem le (h : FewestEdits a b n) (hedits : Edits m a b) : n ≤ m := h.2 hedits

theorem reverse (h : FewestEdits a b n) : FewestEdits a.reverse b.reverse n := by
  refine ⟨h.1.reverse, fun k hk => h.le ?_⟩
  have hback := hk.reverse
  rwa [List.reverse_reverse, List.reverse_reverse] at hback

theorem eq_zero_iff (h : FewestEdits a b n) : n = 0 ↔ a = b := by
  constructor
  · rintro rfl
    exact edits_zero_iff.mp h.1
  · rintro rfl
    exact Nat.le_zero.mp (h.le (.none a))

/-- Going by way of a third list takes no fewer edits. -/
theorem le_add {k : Nat} (h : FewestEdits a c k) (hab : FewestEdits a b m)
    (hbc : FewestEdits b c n) : k ≤ m + n :=
  h.le (hab.1.trans hbc.1)

end FewestEdits

/-- A list is made from nothing by inserting all of it. -/
theorem fewestEdits_nil (b : List α) : FewestEdits [] b b.length := by
  refine ⟨(Aligned.nil_left b).edits, fun k hk => ?_⟩
  obtain ⟨m, hm, h⟩ := hk.exists_aligned
  exact h.length_le.trans hm

/-- **The recurrence.**  The first elements of two lists are deleted, inserted, or put one above the
other, which is an edit unless they are the same. -/
theorem FewestEdits.cons [DecidableEq α] {k : Nat} (hdelete : FewestEdits a (e :: b) k)
    (hinsert : FewestEdits (d :: a) b m) (hreplace : FewestEdits a b n) :
    FewestEdits (d :: a) (e :: b) (min (min (k + 1) (m + 1)) (n + if d = e then 0 else 1)) := by
  have hkeep : Edits (n + if d = e then 0 else 1) (d :: a) (e :: b) := by
    split
    · next h => exact h ▸ hreplace.1.cons d
    · exact .more (.replace [] d e a) (hreplace.1.cons e)
  refine ⟨?_, fun l hl => ?_⟩
  · rcases min_choice (min (k + 1) (m + 1)) (n + if d = e then 0 else 1) with h | h <;> rw [h]
    · rcases min_choice (k + 1) (m + 1) with h | h <;> rw [h]
      · exact .more (.delete [] d a) hdelete.1
      · exact hinsert.1.trans (.one (.insert [] e b))
    · exact hkeep
  · obtain ⟨j, hj, haligned⟩ := Edits.exists_aligned hl
    refine le_trans ?_ hj
    cases haligned with
    | same _ h =>
      have := hreplace.le h.edits
      rw [if_pos rfl]
      omega
    | replaced _ _ h =>
      have := hreplace.le h.edits
      split <;> omega
    | deleted _ h =>
      have := hdelete.le h.edits
      omega
    | inserted _ h =>
      have := hinsert.le h.edits
      omega

end GridLayout
