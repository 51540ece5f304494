import GridLayout.Proofs.Audit

/-!
# What the key of an overlapping pair identifies

The report of an overlap carries a key: the breakpoint and the names of the two boxes, the lesser
first, with bars between them.  The name of a box is its section and its own id with a slash between
them.  Nothing is escaped on either level, and ids are free text, so a key can be cut up again in
more ways than one.

A text `x|y` is also `x'|y'` when it is cut at another bar, and this is all that can happen
(`joined_eq_iff`): one of the two first parts goes on, past the bar, with a piece `t` that the other
second part begins with.  So two keys are equal exactly when the breakpoints are and the pairs are
written alike: they have the same two names, or their names differ in such a piece.  The order in
which the boxes are enumerated plays no part.

For the names that people give, the key does identify the pair.  It is enough that section ids hold
neither a slash nor a bar, and that no box id has a slash after a bar: the first slash of a name is
then the one that was put there, and a piece past a bar would have to hold a slash that it cannot.

* `joined_eq_iff`: the ways to cut a joined text.
* `pairKey_eq_iff`: when two keys are equal.
* `writtenAlike_iff_of_plain`: pairs of boxes with plain names.
* `pairKey?_overlapReport_eq_iff`, `overlapReport_identified`: the keys of two reports.
-/

namespace GridLayout

/-! ## Joined texts -/

/-- Two texts as one, with a character between them. -/
def joined (c : Char) (x y : String) : String := x ++ String.singleton c ++ y

/-- What comes of joining one pair of texts is cut in two further to the left: the first part goes
on, past the character, with a piece that the other second part begins with. -/
def Recut (c : Char) (p q : String × String) : Prop :=
  ∃ t, p.1 = joined c q.1 t ∧ q.2 = joined c t p.2

section

variable {c d : Char} {x y x' y' z : String}

theorem toList_joined : (joined c x y).toList = x.toList ++ c :: y.toList := by
  rw [joined, String.toList_append, String.toList_append, String.toList_singleton,
    List.append_assoc, List.singleton_append]

theorem mem_joined : d ∈ (joined c x y).toList ↔ d ∈ x.toList ∨ d = c ∨ d ∈ y.toList := by
  rw [toList_joined, List.mem_append, List.mem_cons]

theorem self_mem_joined : c ∈ (joined c x y).toList := mem_joined.mpr (Or.inr (Or.inl rfl))

theorem joined_assoc : joined c (joined d x y) z = joined d x (joined c y z) := by
  simp only [joined, String.append_assoc]

theorem recut_mk_iff :
    Recut c (x, y) (x', y') ↔ ∃ t, x = joined c x' t ∧ y' = joined c t y := Iff.rfl

theorem Recut.joined_eq {p q : String × String} (h : Recut c p q) :
    joined c p.1 p.2 = joined c q.1 q.2 := by
  obtain ⟨t, hp, hq⟩ := h
  rw [hp, hq, joined_assoc]

/-- A text that begins with a joined text, short of its second part, is cut at the same place or at
a later one. -/
theorem eq_or_recut_of_append {t : List Char} (hx : x'.toList = x.toList ++ t)
    (hy : c :: y.toList = t ++ c :: y'.toList) :
    (x, y) = (x', y') ∨ Recut c (x', y') (x, y) := by
  rcases List.cons_eq_append_iff.mp hy with ⟨rfl, hsame⟩ | ⟨t, rfl, hlater⟩
  · rw [List.append_nil] at hx
    have hsecond := (List.cons.inj hsame).2
    exact Or.inl (Prod.ext (String.toList_inj.mp hx.symm) (String.toList_inj.mp hsecond.symm))
  · refine Or.inr (recut_mk_iff.mpr ⟨String.ofList t, ?_, ?_⟩) <;>
      rw [← String.toList_inj, toList_joined, String.toList_ofList]
    · exact hx
    · exact hlater

/-- **The ways to cut a joined text.**  Two pairs of texts are joined to the same when they are the
same, or one of them is the other cut further to the left. -/
theorem joined_eq_iff :
    joined c x y = joined c x' y' ↔
      (x, y) = (x', y') ∨ Recut c (x, y) (x', y') ∨ Recut c (x', y') (x, y) := by
  constructor
  · intro h
    have hlist := congrArg String.toList h
    rw [toList_joined, toList_joined] at hlist
    rcases List.append_eq_append_iff.mp hlist with ⟨t, hx, hy⟩ | ⟨t, hx, hy⟩
    · exact (eq_or_recut_of_append hx hy).imp_right Or.inr
    · exact (eq_or_recut_of_append hx hy).imp Eq.symm Or.inl
  · rintro (h | h | h)
    · rw [(Prod.mk.inj h).1, (Prod.mk.inj h).2]
    · exact h.joined_eq
    · exact h.joined_eq.symm

/-- First parts without the character can be told from what follows them. -/
theorem joined_inj (hx : c ∉ x.toList) (hx' : c ∉ x'.toList) :
    joined c x y = joined c x' y' ↔ x = x' ∧ y = y' := by
  rw [joined_eq_iff, Prod.mk.injEq, or_iff_left]
  rintro (h | h) <;> obtain ⟨t, rfl, -⟩ := recut_mk_iff.mp h
  · exact hx self_mem_joined
  · exact hx' self_mem_joined

end

/-! ## Pairs in order -/

/-- Two texts, the lesser first. -/
def inOrder (x y : String) : String × String := if x ≤ y then (x, y) else (y, x)

theorem inOrder_eq_or (x y : String) : inOrder x y = (x, y) ∨ inOrder x y = (y, x) := by
  rw [inOrder]
  split
  · exact Or.inl rfl
  · exact Or.inr rfl

theorem inOrder_comm (x y : String) : inOrder x y = inOrder y x := by
  rw [inOrder, inOrder]
  split <;> split
  · next hxy hyx => rw [String.le_antisymm hxy hyx]
  · rfl
  · rfl
  · next hxy hyx => exact absurd (String.le_total x y) (not_or.mpr ⟨hxy, hyx⟩)

theorem mk_inOrder (x y : String) : s((inOrder x y).1, (inOrder x y).2) = s(x, y) := by
  rcases inOrder_eq_or x y with h | h
  · rw [h]
  · rw [h, Sym2.eq_swap]

theorem inOrder_eq_iff {x y x' y' : String} :
    inOrder x y = inOrder x' y' ↔ s(x, y) = s(x', y') := by
  constructor
  · intro h
    rw [← mk_inOrder x y, ← mk_inOrder x' y', h]
  · intro h
    rcases Sym2.eq_iff.mp h with ⟨rfl, rfl⟩ | ⟨rfl, rfl⟩
    · rfl
    · exact inOrder_comm x y

/-! ## Keys -/

theorem Breakpoint.name_inj {bp bp' : Breakpoint} : bp.name = bp'.name ↔ bp = bp' := by
  refine ⟨fun h => ?_, congrArg name⟩
  have hname := congrArg ofName? h
  rw [ofName?_name, ofName?_name] at hname
  exact Option.some.inj hname

theorem Breakpoint.bar_notMem_name (bp : Breakpoint) : '|' ∉ bp.name.toList := by
  cases bp <;> decide

/-- The key is the breakpoint and the two names in order. -/
theorem pairKey_eq (bp : Breakpoint) (x y : String) :
    pairKey bp x y = joined '|' bp.name (joined '|' (inOrder x y).1 (inOrder x y).2) := by
  have hkey : ∀ first second : String,
      bp.name ++ String.singleton '|' ++ first ++ String.singleton '|' ++ second =
        joined '|' bp.name (joined '|' first second) := fun first second => by
    rw [← joined, ← joined, joined_assoc]
  rw [pairKey, inOrder]
  split
  · exact hkey x y
  · exact hkey y x

/-- **When two keys are equal.** -/
theorem pairKey_eq_iff {bp bp' : Breakpoint} {x y x' y' : String} :
    pairKey bp x y = pairKey bp' x' y' ↔
      bp = bp' ∧ (s(x, y) = s(x', y') ∨ Recut '|' (inOrder x y) (inOrder x' y') ∨
        Recut '|' (inOrder x' y') (inOrder x y)) := by
  rw [pairKey_eq, pairKey_eq, joined_inj bp.bar_notMem_name bp'.bar_notMem_name,
    Breakpoint.name_inj, joined_eq_iff, inOrder_eq_iff]

/-! ## Boxes -/

/-- The name of a box in reports. -/
def BoxPlace.name (b : BoxPlace) : String := joined '/' b.sectionId b.boxId

theorem GridPlan.Placed.name_eq {α : Type} (p : GridPlan.Placed α) : p.name = p.place.name := rfl

/-- A box with a plain name: a section id without slashes and bars, and a box id in which no slash
comes after a bar. -/
structure BoxPlace.Plain (b : BoxPlace) : Prop where
  slash_notMem : '/' ∉ b.sectionId.toList
  bar_notMem : '|' ∉ b.sectionId.toList
  noSlashAfterBar : ∀ x y, b.boxId = joined '|' x y → '/' ∉ y.toList

/-- It is enough that the box id has no slashes, or no bars. -/
theorem BoxPlace.plain_of_notMem {b : BoxPlace} (hslash : '/' ∉ b.sectionId.toList)
    (hbar : '|' ∉ b.sectionId.toList) (hbox : '/' ∉ b.boxId.toList ∨ '|' ∉ b.boxId.toList) :
    b.Plain where
  slash_notMem := hslash
  bar_notMem := hbar
  noSlashAfterBar x y hid hy := by
    rw [hid] at hbox
    rcases hbox with h | h
    · exact h (mem_joined.mpr (Or.inr (Or.inr hy)))
    · exact h self_mem_joined

theorem BoxPlace.Plain.name_inj {a b : BoxPlace} (ha : a.Plain) (hb : b.Plain) :
    a.name = b.name ↔ a = b := by
  rw [BoxPlace.name, BoxPlace.name, joined_inj ha.slash_notMem hb.slash_notMem]
  cases a
  cases b
  rw [BoxPlace.mk.injEq]

/-- Plain names cannot be cut further to the left. -/
theorem BoxPlace.Plain.not_recut {a b a' b' : BoxPlace} (ha : a.Plain) (hb : b.Plain)
    (ha' : a'.Plain) (hb' : b'.Plain) : ¬ Recut '|' (a.name, b.name) (a'.name, b'.name) := by
  rw [recut_mk_iff]
  rintro ⟨t, hfirst, hsecond⟩
  rw [name, name, joined_assoc, joined_inj ha.slash_notMem ha'.slash_notMem] at hfirst
  have ht : '/' ∉ t.toList := ha.noSlashAfterBar _ t hfirst.2
  -- the piece ends up in the section id of the other second box, and the bar with it
  have hslash : '/' ∉ (joined '|' t b.sectionId).toList := by
    rw [mem_joined, not_or, not_or]
    exact ⟨ht, by decide, hb.slash_notMem⟩
  rw [name, name, ← joined_assoc, joined_inj hb'.slash_notMem hslash] at hsecond
  exact hb'.bar_notMem (hsecond.1 ▸ self_mem_joined)

/-- Two pairs of boxes are written alike: they have the same two names, or the names of one, in
order and with a bar between them, are those of the other cut at another bar. -/
def WrittenAlike (p q : BoxPlace × BoxPlace) : Prop :=
  s(p.1.name, p.2.name) = s(q.1.name, q.2.name) ∨
    Recut '|' (inOrder p.1.name p.2.name) (inOrder q.1.name q.2.name) ∨
    Recut '|' (inOrder q.1.name q.2.name) (inOrder p.1.name p.2.name)

/-- The same two boxes are written alike, whichever comes first. -/
theorem writtenAlike_of_eq {p q : BoxPlace × BoxPlace} (h : s(p.1, p.2) = s(q.1, q.2)) :
    WrittenAlike p q :=
  Or.inl (congrArg (Sym2.map BoxPlace.name) h)

/-- Two boxes with plain names. -/
def PlainPair (p : BoxPlace × BoxPlace) : Prop := p.1.Plain ∧ p.2.Plain

theorem PlainPair.exists_inOrder {p : BoxPlace × BoxPlace} (hp : PlainPair p) :
    ∃ a b : BoxPlace, a.Plain ∧ b.Plain ∧ inOrder p.1.name p.2.name = (a.name, b.name) := by
  rcases inOrder_eq_or p.1.name p.2.name with h | h
  · exact ⟨p.1, p.2, hp.1, hp.2, h⟩
  · exact ⟨p.2, p.1, hp.2, hp.1, h⟩

theorem PlainPair.not_recut {p q : BoxPlace × BoxPlace} (hp : PlainPair p) (hq : PlainPair q) :
    ¬ Recut '|' (inOrder p.1.name p.2.name) (inOrder q.1.name q.2.name) := by
  obtain ⟨a, b, ha, hb, hp⟩ := hp.exists_inOrder
  obtain ⟨a', b', ha', hb', hq⟩ := hq.exists_inOrder
  rw [hp, hq]
  exact ha.not_recut hb ha' hb'

/-- **Pairs of boxes with plain names** are written alike only if they are the same. -/
theorem writtenAlike_iff_of_plain {p q : BoxPlace × BoxPlace} (hp : PlainPair p)
    (hq : PlainPair q) : WrittenAlike p q ↔ s(p.1, p.2) = s(q.1, q.2) := by
  refine ⟨?_, writtenAlike_of_eq⟩
  rintro (h | h | h)
  · rw [Sym2.eq_iff, hp.1.name_inj hq.1, hp.2.name_inj hq.2, hp.1.name_inj hq.2,
      hp.2.name_inj hq.1] at h
    exact Sym2.eq_iff.mpr h
  · exact absurd h (hp.not_recut hq)
  · exact absurd h (hq.not_recut hp)

/-! ## Reports -/

section

variable {α : Type}

/-- The key of a pair that the details hold, if they hold one. -/
def Diagnostic.pairKey? (d : Diagnostic α) : Option String :=
  (d.details.bind (·.field? "pairKey")).bind Value.string?

/-- The two boxes of a pair, in the order of their areas. -/
def places (p : GridPlan.Placed α × GridPlan.Placed α) : BoxPlace × BoxPlace :=
  (p.1.place, p.2.place)

variable [Scalar α]

theorem pairKey?_overlapReport (severity : Severity) (bp : Breakpoint)
    (p : GridPlan.Placed α × GridPlan.Placed α) :
    (overlapReport severity bp p).pairKey? = some (pairKey bp p.1.place.name p.2.place.name) := by
  have hfield : (overlapReport severity bp p).pairKey? =
      ((Value.canonicalFields (Issue.overlap severity bp p.1 p.2).details).lookup "pairKey").bind
        Value.string? := rfl
  rw [hfield, Value.lookup_canonicalFields, ← p.1.name_eq, ← p.2.name_eq]
  simp [Issue.details, Value.lookup_cons_eq, Value.canonical, Value.string?]

/-- **When two reports have the same key.** -/
theorem pairKey?_overlapReport_eq_iff {severity severity' : Severity} {bp bp' : Breakpoint}
    {p q : GridPlan.Placed α × GridPlan.Placed α} :
    (overlapReport severity bp p).pairKey? = (overlapReport severity' bp' q).pairKey? ↔
      bp = bp' ∧ WrittenAlike (places p) (places q) := by
  rw [pairKey?_overlapReport, pairKey?_overlapReport, Option.some_inj]
  exact pairKey_eq_iff

/-- Every report of an audit is that of an overlap, at a breakpoint that is asked for. -/
theorem exists_eq_overlapReport {plan : GridPlan α} {breakpoints : List Breakpoint}
    {policy : OverlapPolicy} {report : Diagnostic α}
    (h : report ∈ (overlapIssues plan breakpoints policy).map Issue.diagnostic) :
    ∃ severity, ∃ bp ∈ breakpoints, ∃ p ∈ overlapsAt plan bp,
      report = overlapReport severity bp p := by
  obtain ⟨issue, hissue, rfl⟩ := List.mem_map.mp h
  obtain ⟨severity, bp, p, -, hbp, hp, rfl⟩ := mem_overlapIssues.mp hissue
  exact ⟨severity, bp, hbp, p, hp, rfl⟩

variable (α) in
/-- **What the key of a report identifies.**  Every report of an audit is that of an overlap and has
a key.  Two of them have the same one exactly when they are of one breakpoint and their boxes are
written alike, which the same two boxes always are.  So a key stands for its breakpoint and its pair
of boxes exactly as long as no other pair that is written alike gets in the way; and with plain
names none does. -/
theorem overlapReport_identified :
    (∀ (plan : GridPlan α) (breakpoints : List Breakpoint) (policy : OverlapPolicy),
      ∀ report ∈ (overlapIssues plan breakpoints policy).map Issue.diagnostic,
        ∃ severity, ∃ bp ∈ breakpoints, ∃ p ∈ overlapsAt plan bp,
          report = overlapReport severity bp p) ∧
    ∀ (severity severity' : Severity) (bp bp' : Breakpoint)
      (p q : GridPlan.Placed α × GridPlan.Placed α),
      (overlapReport severity bp p).pairKey?.isSome ∧
      ((overlapReport severity bp p).pairKey? = (overlapReport severity' bp' q).pairKey? ↔
        bp = bp' ∧ WrittenAlike (places p) (places q)) ∧
      (((overlapReport severity bp p).pairKey? = (overlapReport severity' bp' q).pairKey? ↔
          bp = bp' ∧ boxesOf p = boxesOf q) ↔
        ¬ (bp = bp' ∧ boxesOf p ≠ boxesOf q ∧ WrittenAlike (places p) (places q))) ∧
      (PlainPair (places p) → PlainPair (places q) →
        ((overlapReport severity bp p).pairKey? = (overlapReport severity' bp' q).pairKey? ↔
          bp = bp' ∧ boxesOf p = boxesOf q)) := by
  refine ⟨fun _ _ _ _ => exists_eq_overlapReport, fun severity severity' bp bp' p q => ?_⟩
  have hsame : boxesOf p = boxesOf q → WrittenAlike (places p) (places q) := fun h =>
    writtenAlike_of_eq (p := places p) (q := places q) h
  refine ⟨?_, pairKey?_overlapReport_eq_iff, ?_, fun hp hq => ?_⟩
  · rw [pairKey?_overlapReport]
    rfl
  · rw [pairKey?_overlapReport_eq_iff]
    constructor
    · rintro h ⟨hbp, hne, halike⟩
      exact hne (h.mp ⟨hbp, halike⟩).2
    · intro h
      refine and_congr_right fun hbp => ⟨fun halike => ?_, hsame⟩
      by_contra hne
      exact h ⟨hbp, hne, halike⟩
  · rw [pairKey?_overlapReport_eq_iff, writtenAlike_iff_of_plain hp hq]
    rfl

end

/-- A box of one cell, the first of the grid. -/
def onFirstCell (sectionId boxId : String) : GridPlan.Placed Rat := ⟨sectionId, boxId, ⟨1, 2, 1, 2⟩⟩

theorem overlapReport_identified_swapped :
    PlainPair (places (onFirstCell "s" "a|b", onFirstCell "t" "a/b")) ∧
      PlainPair (places (onFirstCell "t" "a/b", onFirstCell "s" "a|b")) ∧
      (overlapReport .error .md (onFirstCell "s" "a|b", onFirstCell "t" "a/b")).pairKey? =
        (overlapReport .warning .md (onFirstCell "t" "a/b", onFirstCell "s" "a|b")).pairKey? := by
  have hbars : BoxPlace.Plain ⟨"s", "a|b"⟩ :=
    BoxPlace.plain_of_notMem (by decide) (by decide) (Or.inl (by decide))
  have hslashes : BoxPlace.Plain ⟨"t", "a/b"⟩ :=
    BoxPlace.plain_of_notMem (by decide) (by decide) (Or.inr (by decide))
  have hp : PlainPair (places (onFirstCell "s" "a|b", onFirstCell "t" "a/b")) := ⟨hbars, hslashes⟩
  have hq : PlainPair (places (onFirstCell "t" "a/b", onFirstCell "s" "a|b")) := ⟨hslashes, hbars⟩
  obtain ⟨-, -, -, hplain⟩ := (overlapReport_identified Rat).2 .error .warning .md .md
    (onFirstCell "s" "a|b", onFirstCell "t" "a/b") (onFirstCell "t" "a/b", onFirstCell "s" "a|b")
  exact ⟨hp, hq, (hplain hp hq).mpr ⟨rfl, Sym2.eq_swap⟩⟩

/-- Three boxes on one cell; two of them have the same name. -/
def sameNames : GridPlan Rat where
  sections := IdMap.ofList [
    ("a", Bps.splat (IdMap.ofList [("b/c", ⟨1, 2, 1, 2⟩)])),
    ("a/b", Bps.splat (IdMap.ofList [("c", ⟨1, 2, 1, 2⟩)])),
    ("d", Bps.splat (IdMap.ofList [("e", ⟨1, 2, 1, 2⟩)]))]
  dimensions := Bps.splat ⟨2, 2⟩
  normalization := Bps.splat ⟨0, 0⟩

/-- **The key does not identify the pair**: the two boxes of one name each overlap the third, and
the two reports have the same key. -/
theorem not_overlapReport_identified :
    ¬ ∀ (plan : GridPlan Rat) (severity : Severity) (bp bp' : Breakpoint),
      ∀ p ∈ overlapsAt plan bp, ∀ q ∈ overlapsAt plan bp',
        ((overlapReport severity bp p).pairKey? = (overlapReport severity bp' q).pairKey? ↔
          bp = bp' ∧ boxesOf p = boxesOf q) := by
  intro h
  have hkeys := h sameNames .warning .xs .xs (onFirstCell "a" "b/c", onFirstCell "d" "e")
    (by decide +kernel) (onFirstCell "a/b" "c", onFirstCell "d" "e") (by decide +kernel)
  rw [pairKey?_overlapReport, pairKey?_overlapReport] at hkeys
  exact absurd (hkeys.mp (congrArg some (by decide))).2 (by decide)

end GridLayout
