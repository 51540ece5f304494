import GridLayout.Proofs.Edits
import GridLayout.Text.EditDistance

/-!
# The edit distance is the least number of edits

The row of a prefix holds, column by column, the least numbers of edits to the prefixes of the
second text.  While a row is being filled this is so up to the column that was filled last; what is
behind it was left there by an earlier round and is never read.  Filling one more cell reads its
three neighbours, all of which are settled by then, and takes the recurrence `FewestEdits.cons` at
the ends of the two prefixes.

Rows keep their size, one cell for every prefix of the second text, so no index falls outside and a
distance always comes out.

* `Rows.Filling.fillCell?`, `Rows.Ready.fillRow?`: what one cell and one row preserve.
* `exists_distance?`: a run over both texts gives the least number of edits.
* `editDistance_metric`: the distance between texts, and what follows for it as a distance.
-/

namespace GridLayout

/-! ## Prefixes -/

/-- The recurrence at the ends of two lists. -/
theorem FewestEdits.snoc {α : Type} [DecidableEq α] {a b : List α} {d e : α} {k m n : Nat}
    (hdelete : FewestEdits a (b ++ [e]) k) (hinsert : FewestEdits (a ++ [d]) b m)
    (hreplace : FewestEdits a b n) :
    FewestEdits (a ++ [d]) (b ++ [e])
      (min (min (k + 1) (m + 1)) (n + if d = e then 0 else 1)) := by
  have hdelete := hdelete.reverse
  have hinsert := hinsert.reverse
  rw [List.reverse_concat] at hdelete hinsert
  have h := (FewestEdits.cons hdelete hinsert hreplace.reverse).reverse
  rwa [List.reverse_cons, List.reverse_cons, List.reverse_reverse, List.reverse_reverse] at h

/-! ## Loops -/

/-- **A loop that keeps an invariant** comes to its end when no round that the invariant allows
fails. -/
theorem exists_foldlM_range {σ : Type} {f : σ → Nat → Option σ} {n : Nat} {P : Nat → σ → Prop}
    (hstep : ∀ k < n, ∀ s, P k s → ∃ s', f s k = some s' ∧ P (k + 1) s') {s : σ} (h : P 0 s) :
    ∃ s', (List.range n).foldlM f s = some s' ∧ P n s' := by
  induction n with
  | zero => exact ⟨s, rfl, h⟩
  | succ n ih =>
    obtain ⟨t, ht, hP⟩ := ih fun k hk => hstep k (Nat.lt_succ_of_lt hk)
    obtain ⟨u, hu, hP⟩ := hstep n (Nat.lt_succ_self n) t hP
    refine ⟨u, ?_, hP⟩
    rw [List.range_succ, List.foldlM_append, ht]
    simpa using hu

namespace EditDistance

variable {a b p : List Char} {i j n : Nat}

/-! ## Rows -/

/-- A row holds the least numbers of edits from `p` to the prefixes of `b`, up to column `j`. -/
def Holds (row : Array Nat) (p b : List Char) (j : Nat) : Prop :=
  ∀ k ≤ j, ∃ n, row[k]? = some n ∧ FewestEdits p (b.take k) n

theorem holds_range (b : List Char) : Holds (Array.range (b.length + 1)) [] b b.length := by
  intro k hk
  have h := fewestEdits_nil (b.take k)
  rw [List.length_take, Nat.min_eq_left hk] at h
  exact ⟨k, by rw [Array.getElem?_range, if_pos (Nat.lt_succ_of_le hk)], h⟩

/-- The first cell is that of the empty prefix. -/
theorem holds_zero {row : Array Nat} (h : 0 < row.size) :
    Holds (row.set 0 p.length) p b 0 := by
  intro k hk
  rw [Nat.le_zero] at hk
  subst hk
  refine ⟨p.length, Array.getElem?_set_self h, ?_⟩
  exact (fewestEdits_nil p).symm

theorem Holds.set {row : Array Nat} (h : Holds row p b j) (hj : j + 1 < row.size)
    (hn : FewestEdits p (b.take (j + 1)) n) : Holds (row.set (j + 1) n) p b (j + 1) := by
  intro k hk
  rcases Nat.lt_or_eq_of_le hk with hlt | rfl
  · obtain ⟨m, hm, hleast⟩ := h k (Nat.le_of_lt_succ hlt)
    exact ⟨m, by rw [Array.getElem?_set_ne hj (Nat.ne_of_gt hlt), hm], hleast⟩
  · exact ⟨n, Array.getElem?_set_self hj, hn⟩

namespace Rows

/-- The rows between two rounds: one of them belongs to the first `i` characters of `a`. -/
structure Ready (a b : List Char) (i : Nat) (rows : Rows) : Prop where
  size_finished : rows.finished.size = b.length + 1
  size_next : rows.next.size = b.length + 1
  finished : Holds rows.finished (a.take i) b b.length

/-- The rows in the middle of a round: the next row is filled up to column `j`. -/
structure Filling (a b : List Char) (i j : Nat) (rows : Rows) : Prop extends Ready a b i rows where
  next : Holds rows.next (a.take (i + 1)) b j

theorem ready_start (a b : List Char) : Ready a b 0 (start b.length) where
  size_finished := Array.size_range
  size_next := Array.size_replicate
  finished := holds_range b

theorem put?_of_lt {rows : Rows} (h : j < rows.next.size) :
    rows.put? j n = some { rows with next := rows.next.set j n h } := dif_pos h

/-- The first cell of a row is filled. -/
theorem Ready.put? {rows : Rows} (h : Ready a b i rows) (hi : i < a.length) :
    ∃ begun, rows.put? 0 (i + 1) = some begun ∧ Filling a b i 0 begun := by
  have hpos : 0 < rows.next.size := by
    rw [h.size_next]
    exact Nat.succ_pos _
  have hlength : (a.take (i + 1)).length = i + 1 := List.length_take_of_le hi
  have hfirst := holds_zero (p := a.take (i + 1)) (b := b) hpos
  rw [hlength] at hfirst
  exact ⟨_, put?_of_lt hpos,
    { size_finished := h.size_finished
      size_next := (Array.size_set hpos).trans h.size_next
      finished := h.finished
      next := hfirst }⟩

/-- **One more cell** is filled from its three neighbours. -/
theorem Filling.fillCell? {rows : Rows} (h : Filling a b i j rows) (hi : i < a.length)
    (hj : j < b.length) :
    ∃ filled, fillCell? a.toArray b.toArray i rows j = some filled ∧
      Filling a b i (j + 1) filled := by
  obtain ⟨above, habove, hdelete⟩ := h.finished (j + 1) hj
  obtain ⟨left, hleft, hinsert⟩ := h.next j le_rfl
  obtain ⟨diagonal, hdiagonal, hreplace⟩ := h.finished j hj.le
  have hsize : j + 1 < rows.next.size := by
    rw [h.size_next]
    exact Nat.succ_lt_succ hj
  have hc : a.toArray[i]? = some a[i] :=
    List.getElem?_toArray.trans (List.getElem?_eq_getElem hi)
  have hd : b.toArray[j]? = some b[j] :=
    List.getElem?_toArray.trans (List.getElem?_eq_getElem hj)
  have hcell : Rows.fillCell? a.toArray b.toArray i rows j =
      rows.put? (j + 1) (min (min (above + 1) (left + 1))
        (diagonal + if a[i] = b[j] then 0 else 1)) := by
    simp only [Rows.fillCell?, hc, hd, habove, hleft, hdiagonal, Option.bind_eq_bind,
      Option.bind_some]
  rw [hcell, put?_of_lt hsize]
  rw [← List.take_append_getElem hj] at hdelete
  rw [← List.take_append_getElem hi] at hinsert
  have hleast := FewestEdits.snoc hdelete hinsert hreplace
  rw [List.take_append_getElem hi, List.take_append_getElem hj] at hleast
  exact ⟨_, rfl,
    { size_finished := h.size_finished
      size_next := (Array.size_set hsize).trans h.size_next
      finished := h.finished
      next := h.next.set hsize hleast }⟩

/-- A row that is filled to its end belongs to one more character. -/
theorem Filling.swap {rows : Rows} (h : Filling a b i b.length rows) :
    Ready a b (i + 1) rows.swap where
  size_finished := h.size_next
  size_next := h.size_finished
  finished := h.next

/-- **One more row** is filled from the one before. -/
theorem Ready.fillRow? {rows : Rows} (h : Ready a b i rows) (hi : i < a.length) :
    ∃ filled, fillRow? a.toArray b.toArray rows i = some filled ∧ Ready a b (i + 1) filled := by
  obtain ⟨begun, hbegun, hfilling⟩ := h.put? hi
  obtain ⟨filled, hfilled, hend⟩ := exists_foldlM_range (n := b.length) (P := Filling a b i)
    (fun j hj _ hrows => hrows.fillCell? hi hj) hfilling
  refine ⟨filled.swap, ?_, hend.swap⟩
  rw [Rows.fillRow?, hbegun]
  simp [hfilled]

end Rows

/-- **A run over both texts** gives the least number of edits. -/
theorem exists_distance? (a b : List Char) :
    ∃ n, distance? a.toArray b.toArray = some n ∧ FewestEdits a b n := by
  obtain ⟨rows, hrows, hready⟩ := exists_foldlM_range (n := a.length) (P := Rows.Ready a b)
    (fun i hi _ hrows => hrows.fillRow? hi) (Rows.ready_start a b)
  obtain ⟨n, hn, hleast⟩ := hready.finished b.length le_rfl
  rw [List.take_length, List.take_length] at hleast
  refine ⟨n, ?_, hleast⟩
  rw [distance?]
  simp [hrows, hn]

end EditDistance

/-! ## Texts -/

theorem distance?_eq_some (a b : String) :
    EditDistance.distance? a.toList.toArray b.toList.toArray = some (editDistance a b) := by
  obtain ⟨n, hn, -⟩ := EditDistance.exists_distance? a.toList b.toList
  rw [editDistance, hn, Option.getD_some]

theorem fewestEdits_editDistance (a b : String) :
    FewestEdits a.toList b.toList (editDistance a b) := by
  obtain ⟨n, hn, hleast⟩ := EditDistance.exists_distance? a.toList b.toList
  rw [editDistance, hn]
  exact hleast

/-- **The distance between two texts** always comes out, and is the least number of characters to
insert, delete or replace.  It is zero between equal texts only, the same in both directions, and no
longer than by way of a third text. -/
theorem editDistance_metric (a b : String) :
    EditDistance.distance? a.toList.toArray b.toList.toArray = some (editDistance a b) ∧
      IsLeast {n | Edits n a.toList b.toList} (editDistance a b) ∧
      (editDistance a b = 0 ↔ a = b) ∧
      editDistance a b = editDistance b a ∧
      ∀ c, editDistance a c ≤ editDistance a b + editDistance b c := by
  have h := fewestEdits_editDistance a b
  refine ⟨distance?_eq_some a b, h, ?_, ?_, fun c => ?_⟩
  · rw [h.eq_zero_iff, String.toList_inj]
  · exact h.unique (fewestEdits_editDistance b a).symm
  · exact (fewestEdits_editDistance a c).le_add h (fewestEdits_editDistance b c)

end GridLayout
