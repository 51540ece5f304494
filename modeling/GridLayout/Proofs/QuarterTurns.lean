import GridLayout.Geometry.Coordinate
import GridLayout.Proofs.Doubles.Quotients

/-!
# Rotations by whole numbers of quarter turns

Four quarter turns make no turn, whatever the components are, because changing a sign twice changes
nothing.  An angle that is ninety degrees times an integer, exactly, is divided by ninety without
rounding, so a rotation by it is as many quarter turns.

They are counted in a word of sixty-four bits.  Counts below its range are multiples of four, and
so is the least count it holds, that they are cut to.  Counts above the range are multiples of four
too, but the greatest count it holds is not: what should not turn at all turns by three quarters.

* `quarterTurns_add`: quarter turns in a row are counted together.
* `turn_eq_quarterTurns_saturate`: the turns that are made are those of the count in its word.
* `exact_div_ninety`: how many quarter turns an angle has.
* `rotate_quarterTurns`: what a rotation by a whole number of quarter turns is.
* `not_forall_rotate_quarterTurns`: the first angle that is turned by the wrong number.
-/

namespace GridLayout

namespace Coordinate

open Number

/-! ## Quarter turns -/

/-- The quarter turn, as often as the remainder by four says. -/
def quarterTurns (a : Coordinate Float) (turns : ℤ) : Coordinate Float :=
  quarterTurn^[(turns % 4).toNat] a

/-- Four quarter turns change both signs twice, so they make no turn. -/
theorem isPeriodicPt_quarterTurn (a : Coordinate Float) :
    Function.IsPeriodicPt quarterTurn 4 a := by
  show - -a = a
  exact Coordinate.ext (neg_neg_float a.x) (neg_neg_float a.y)

/-- Quarter turns in a row are counted together. -/
theorem quarterTurns_add (a : Coordinate Float) (k j : ℤ) :
    (a.quarterTurns k).quarterTurns j = a.quarterTurns (k + j) := by
  have hcount : ((k + j) % 4).toNat = ((j % 4).toNat + (k % 4).toNat) % 4 := by omega
  rw [quarterTurns, quarterTurns, quarterTurns, ← Function.iterate_add_apply, hcount,
    (isPeriodicPt_quarterTurn a).iterate_mod_apply]

theorem quarterTurns_of_dvd (a : Coordinate Float) {k : ℤ} (h : 4 ∣ k) : a.quarterTurns k = a := by
  rw [quarterTurns, Int.emod_eq_zero_of_dvd h]
  rfl

/-! ## Counting turns in a word -/

theorem turn_eq_quarterTurns_saturate (a : Coordinate Float) (k : ℤ) :
    a.turn k = a.quarterTurns (saturate k) := by
  have hcases : saturate k % 4 = 0 ∨ saturate k % 4 = 1 ∨ saturate k % 4 = 2 ∨
    saturate k % 4 = 3 := by omega
  rw [turn, quarterTurns]
  obtain h | h | h | h := hcases <;> rw [h]
  · rfl
  · rfl
  · rfl
  · exact Coordinate.ext (neg_neg_float a.y).symm rfl

theorem saturate_eq (k : ℤ) : saturate k = Max.max (-2 ^ 63) (Min.min k (2 ^ 63 - 1)) := rfl

/-- Up to the greatest count that the word holds, the turns are those of the count, provided that it
is a multiple of four where it is below the range. -/
theorem turn_eq_quarterTurns (a : Coordinate Float) {k : ℤ} (hk : k < 2 ^ 63)
    (hfar : k < -2 ^ 63 → 4 ∣ k) : a.turn k = a.quarterTurns k := by
  rw [turn_eq_quarterTurns_saturate]
  obtain hin | hbelow := le_or_gt (-2 ^ 63) k
  · rw [saturate_eq, min_eq_left (by omega), max_eq_right hin]
  · rw [saturate_eq, min_eq_left (by omega), max_eq_left hbelow.le,
      quarterTurns_of_dvd a (hfar hbelow), quarterTurns_of_dvd a (by decide)]

theorem turn_eq_three (a : Coordinate Float) {k : ℤ} (hk : 2 ^ 63 ≤ k) :
    a.turn k = a.quarterTurns 3 := by
  rw [turn_eq_quarterTurns_saturate, saturate_eq, min_eq_right (by omega), max_eq_right (by decide)]
  rfl

/-! ## Angles -/

variable {degrees : Float} {k : ℤ}

theorem exact_ninety : Exact 90.0 90 :=
  ⟨⟨false, 45 * 2 ^ 47, -46⟩, by decide +kernel, by norm_num [Dyadic.value]⟩

/-- **Angles are divided by ninety without rounding** when they are that times an integer. -/
theorem exact_div_ninety (h : Exact degrees (90 * k)) : Exact (degrees / 90.0) k := by
  have hgrid := Exact.exists_onGrid (c := 90) (by exact_mod_cast h) (by decide)
  exact (mul_comm (90 : ℚ) k ▸ h).div exact_ninety (by norm_num) hgrid

theorem rotate_eq_turn (a : Coordinate Float) (h : Exact degrees (90 * k)) :
    a.rotate degrees = a.turn k := by
  have hturns := exact_div_ninety h
  show (if isWhole (degrees / 90.0) then a.turn (truncate (degrees / 90.0)) else _) = _
  rw [if_pos hturns.isWhole, hturns.truncate]

/-- A rotation makes the quarter turns that its angle has, up to the greatest count that the word
holds. -/
theorem rotate_eq_quarterTurns (a : Coordinate Float) (h : Exact degrees (90 * k))
    (hk : k < 2 ^ 63) : a.rotate degrees = a.quarterTurns k := by
  rw [rotate_eq_turn a h]
  exact turn_eq_quarterTurns a hk fun hfar => (exact_div_ninety h).four_dvd (by omega)

/-- **A rotation by an angle of ninety degrees times an integer is that integer of quarter turns,
modulo four, exactly**, if the integer is less than `2 ^ 63`.  Two such rotations in a row are the
rotation by the sum, and those by whole turns change nothing.  From `2 ^ 63` on all such angles are
whole turns, and the rotation is by three quarter turns instead. -/
theorem rotate_quarterTurns (a : Coordinate Float) (h : Exact degrees (90 * k)) :
    (k < 2 ^ 63 → a.rotate degrees = a.quarterTurns k) ∧
      (∀ {further total : Float} {j : ℤ}, Exact further (90 * j) → Exact total (90 * (k + j)) →
        k < 2 ^ 63 → j < 2 ^ 63 → k + j < 2 ^ 63 →
          (a.rotate degrees).rotate further = a.rotate total) ∧
      (4 ∣ k → k < 2 ^ 63 → a.rotate degrees = a) ∧
      (2 ^ 63 ≤ k → 4 ∣ k ∧ a.rotate degrees = a.quarterTurns 3) := by
  refine ⟨rotate_eq_quarterTurns a h, ?_, ?_, ?_⟩
  · intro further total j hfurther htotal hk hj hsum
    rw [rotate_eq_quarterTurns a h hk, rotate_eq_quarterTurns _ hfurther hj, quarterTurns_add,
      rotate_eq_quarterTurns (k := k + j) a (by exact_mod_cast htotal) hsum]
  · intro hdvd hk
    rw [rotate_eq_quarterTurns a h hk, quarterTurns_of_dvd a hdvd]
  · intro hk
    exact ⟨(exact_div_ninety h).four_dvd (by omega), by rw [rotate_eq_turn a h, turn_eq_three a hk]⟩

theorem exact_neg_ninety : Exact (-90.0) (90 * (-1 : ℤ)) :=
  ⟨⟨true, 45 * 2 ^ 47, -46⟩, by decide +kernel, by norm_num [Dyadic.value]⟩

/-- The least angle with a count beyond the word. -/
def farAngle : Float := 830103483316929822720.0

theorem exact_farAngle : Exact farAngle (90 * (2 ^ 63 : ℤ)) :=
  ⟨⟨false, 45 * 2 ^ 47, 17⟩, by decide +kernel, by norm_num [Dyadic.value]⟩

/-- A quarter turn back, five quarter turns on from there, and the least angle that is turned by
another number than its own. -/
theorem rotate_two_one :
    (⟨2.0, 1.0⟩ : Coordinate Float).rotate (-90.0) = ⟨1.0, -2.0⟩ ∧
      ((⟨2.0, 1.0⟩ : Coordinate Float).rotate (-90.0)).rotate 450.0 =
        (⟨2.0, 1.0⟩ : Coordinate Float).rotate 360.0 ∧
      (⟨2.0, 1.0⟩ : Coordinate Float).rotate 360.0 = ⟨2.0, 1.0⟩ ∧
      (⟨2.0, 1.0⟩ : Coordinate Float).rotate farAngle = ⟨1.0, -2.0⟩ := by
  have hfive : Exact 450.0 (90 * (5 : ℤ)) :=
    ⟨⟨false, 225 * 2 ^ 45, -44⟩, by decide +kernel, by norm_num [Dyadic.value]⟩
  have hfour : Exact 360.0 (90 * (4 : ℤ)) :=
    ⟨⟨false, 45 * 2 ^ 47, -44⟩, by decide +kernel, by norm_num [Dyadic.value]⟩
  have hsum : Exact 360.0 (90 * ((-1 : ℤ) + (5 : ℤ))) := by
    norm_num at hfour ⊢
    exact hfour
  obtain ⟨hback, hthen, -⟩ := rotate_quarterTurns ⟨2.0, 1.0⟩ exact_neg_ninety
  obtain ⟨-, -, hfull, -⟩ := rotate_quarterTurns ⟨2.0, 1.0⟩ hfour
  obtain ⟨-, -, -, hfar⟩ := rotate_quarterTurns ⟨2.0, 1.0⟩ exact_farAngle
  refine ⟨(hback (by decide)).trans (by decide +kernel),
    hthen hfive hsum (by decide) (by decide) (by decide), hfull (by decide) (by decide), ?_⟩
  exact (hfar (by decide)).2.trans (by decide +kernel)

/-- **Far angles are turned by the wrong number of quarter turns.**  The count is cut to the
greatest of its word, and this is no multiple of four. -/
theorem not_forall_rotate_quarterTurns :
    ¬ ∀ (a : Coordinate Float) (degrees : Float) (k : ℤ), Exact degrees (90 * k) →
      a.rotate degrees = a.quarterTurns k := by
  intro hall
  have hclaimed := hall ⟨2.0, 1.0⟩ farAngle (2 ^ 63) exact_farAngle
  have hmade := rotate_eq_turn (⟨2.0, 1.0⟩ : Coordinate Float) exact_farAngle
  rw [turn_eq_three _ (le_refl _)] at hmade
  exact absurd (hmade.symm.trans hclaimed) (by decide +kernel)

end Coordinate

end GridLayout
