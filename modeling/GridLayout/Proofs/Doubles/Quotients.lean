import GridLayout.Proofs.Doubles.Values

/-!
# Quotients of doubles that are exact

A quotient is computed with at least as many bits as its significand can have, and then rounded to
that many.  When the exact quotient is the value of a double, neither step loses anything: the
significand of the quotient divides without a remainder, and only zeros are cut off behind it.

* `roundWithAccuracy_exact`: rounding what is a significand already, up to zeros behind it.
* `div_finite`: the quotient of two unpacked numbers.
* `Exact.div`: the quotient of two doubles.
-/

namespace GridLayout

namespace Number

open Float.Model (UnpackedFloat Format totalExponent)
open Float.Model.UnpackedFloat

/-! ## Exponents -/

theorem targetExponent_binary64 (total : Int) :
    Format.binary64.targetExponent total = max (total - 53) (-1074) := rfl

/-- A significand on the grid has the exponent that it is meant to have. -/
theorem OnGrid.targetExponent {m : Nat} {e : Int} (h : OnGrid m e) (hm : 0 < m) :
    Format.binary64.targetExponent (totalExponent m e) = e := by
  have hlog : m.log2 < 53 := (Nat.log2_lt hm.ne').mpr h.lt
  have hlower := h.lower
  rw [targetExponent_binary64, totalExponent]
  obtain hfull | hleast := h.full
  · have : 52 ≤ m.log2 := (Nat.le_log2 hm.ne').mpr hfull
    omega
  · omega

/-- Zeros behind a significand make it longer. -/
theorem log2_mul_two_pow {m : Nat} (hm : 0 < m) (i : Nat) : (m * 2 ^ i).log2 = m.log2 + i := by
  induction i with
  | zero => rw [pow_zero, mul_one, Nat.add_zero]
  | succ i ih =>
    rw [pow_succ', mul_left_comm, Nat.log2_two_mul (by positivity), ih, Nat.add_assoc]

/-! ## Rounding -/

/-- Cutting off zeros loses nothing. -/
theorem shiftRight_exact (m i : Nat) :
    (⟨m * 2 ^ i, false, false⟩ : ExtendedMantissa) >>> i = ⟨m, false, false⟩ := by
  show i.repeat ExtendedMantissa.shiftRightOne _ = _
  induction i generalizing m with
  | zero => rw [pow_zero, mul_one]; rfl
  | succ i ih =>
    have hone : ExtendedMantissa.shiftRightOne ⟨m * 2, false, false⟩ = ⟨m, false, false⟩ := by
      simp [ExtendedMantissa.shiftRightOne]
    rw [Nat.repeat, pow_succ', ← mul_assoc, ih (m * 2), hone]

/-- A significand on the grid, with zeros behind it, is rounded to itself. -/
theorem shiftToTargetExponent_exact {m : Nat} {e : Int} (h : OnGrid m e) (hm : 0 < m) (i : Nat) :
    shiftToTargetExponent Format.binary64 (m * 2 ^ i) (e - i) .exact =
      (⟨m, false, false⟩, e) := by
  have htotal : totalExponent (m * 2 ^ i) (e - i) = totalExponent m e := by
    rw [totalExponent, totalExponent, log2_mul_two_pow hm]
    omega
  have hshift : (e - (e - i)).toNat = i := by omega
  rw [shiftToTargetExponent, htotal, h.targetExponent hm, shiftToExponent, hshift]
  exact Prod.ext (shiftRight_exact m i) (Int.sub_add_cancel e i)

theorem roundWithAccuracy_exact {s : Sign} {m : Nat} {e : Int} (h : OnGrid m e) (hm : 0 < m)
    (i : Nat) :
    roundWithAccuracy Format.binary64 s (m * 2 ^ i) (e - i) .exact = .finite s m e hm := by
  -- Rounding cuts off what is behind the significand, and then looks again; that is for nothing.
  have hagain := shiftToTargetExponent_exact h hm 0
  rw [pow_zero, mul_one, Int.natCast_zero, Int.sub_zero] at hagain
  have hrounded : (⟨m, false, false⟩ : ExtendedMantissa).roundedMantissa = m := rfl
  simp only [roundWithAccuracy, shiftToTargetExponent_exact h hm i, hrounded, hagain]
  rw [dif_neg hm.ne']

/-! ## Dividing -/

variable {m₁ m₂ m : Nat} {e₁ e₂ e : Int}

/-- The exponent that a quotient is computed with is not above that of the exact quotient. -/
theorem quotientExponent_le (h : OnGrid m e) (hm₁ : 0 < m₁) (hm₂ : 0 < m₂)
    (hquotient : (m₁ : ℚ) * 2 ^ e₁ = m * 2 ^ e * (m₂ * 2 ^ e₂)) :
    Format.binary64.targetExponent (totalExponent m₁ e₁ - totalExponent m₂ e₂) ≤ e := by
  have hlow : (2 : ℚ) ^ m₁.log2 ≤ m₁ := by exact_mod_cast (Nat.le_log2 hm₁.ne').mp (le_refl _)
  have hhigh : (m₂ : ℚ) < 2 ^ (m₂.log2 + 1) := by
    exact_mod_cast (Nat.log2_lt hm₂.ne').mp (Nat.lt_succ_self _)
  have hlt : (m : ℚ) < 2 ^ 53 := by exact_mod_cast h.lt
  have hpow : (2 : ℚ) ^ ((m₁.log2 : ℤ) + e₁) < 2 ^ (53 + e + (m₂.log2 + 1 + e₂)) := by
    calc (2 : ℚ) ^ ((m₁.log2 : ℤ) + e₁) = 2 ^ m₁.log2 * 2 ^ e₁ := by
          rw [zpow_add₀ two_ne_zero, zpow_natCast]
      _ ≤ m₁ * 2 ^ e₁ := by gcongr
      _ = m * 2 ^ e * (m₂ * 2 ^ e₂) := hquotient
      _ < 2 ^ 53 * 2 ^ e * (2 ^ (m₂.log2 + 1) * 2 ^ e₂) := by gcongr
      _ = 2 ^ (53 + e + (m₂.log2 + 1 + e₂)) := by
        rw [zpow_add₀ two_ne_zero, zpow_add₀ two_ne_zero, zpow_add₀ two_ne_zero (_ + 1) e₂]
        norm_cast
  have hexp := (zpow_lt_zpow_iff_right₀ (by norm_num)).mp hpow
  have hlower := h.lower
  rw [targetExponent_binary64, totalExponent, totalExponent]
  omega

/-- **The quotient of two unpacked numbers that is on the grid comes out.** -/
theorem div_finite {s₁ s₂ : Sign} (h : OnGrid m e) (hm₁ : 0 < m₁) (hm₂ : 0 < m₂) (hm : 0 < m)
    (hquotient : (m₁ : ℚ) * 2 ^ e₁ = m * 2 ^ e * (m₂ * 2 ^ e₂)) :
    UnpackedFloat.div Format.binary64 (.finite s₁ m₁ e₁ hm₁) (.finite s₂ m₂ e₂ hm₂) =
      .finite (s₁ / s₂) m e hm := by
  have hle := quotientExponent_le h hm₁ hm₂ hquotient
  obtain ⟨t, ht⟩ : ∃ t, t = min (e₁ - e₂)
    (Format.binary64.targetExponent (totalExponent m₁ e₁ - totalExponent m₂ e₂)) := ⟨_, rfl⟩
  obtain ⟨i, hi⟩ : ∃ i : Nat, t = e - i := ⟨(e - t).toNat, by omega⟩
  obtain ⟨j, hj⟩ : ∃ j : Nat, e₁ - e₂ - t = j := ⟨(e₁ - e₂ - t).toNat, by omega⟩
  have hnumerator : m₁ <<< j = m₂ * (m * 2 ^ i) := by
    have hj : (2 : ℚ) ^ j = 2 ^ e₁ * 2 ^ ((i : ℤ) - e₂ - e) := by
      rw [← zpow_natCast, ← zpow_add₀ two_ne_zero]
      congr 1
      omega
    have hi : (2 : ℚ) ^ i = 2 ^ e * 2 ^ e₂ * 2 ^ ((i : ℤ) - e₂ - e) := by
      rw [← zpow_natCast, ← zpow_add₀ two_ne_zero, ← zpow_add₀ two_ne_zero]
      congr 1
      omega
    have hrational : (m₁ : ℚ) * 2 ^ j = m₂ * (m * 2 ^ i) := by
      rw [hj, hi, ← mul_assoc, hquotient]
      ring
    rw [Nat.shiftLeft_eq]
    exact_mod_cast hrational
  have hremainder : accuracyOfFraction (m₂ * (m * 2 ^ i) % m₂) m₂ = .exact := by
    rw [Nat.mul_mod_right]
    rfl
  have hcore : divCore Format.binary64 m₁ e₁ m₂ e₂ = (m * 2 ^ i, e - i, .exact) := by
    simp only [divCore, ← ht]
    rw [hj, Int.toNat_natCast, hnumerator, hremainder, Nat.mul_div_cancel_left _ hm₂, hi]
  simp only [UnpackedFloat.div, hcore]
  exact roundWithAccuracy_exact h hm i

/-- **A quotient that is on the grid comes out**, of doubles with a value, with the sign it has to
have. -/
theorem Exact.div {x y : Float} {q r : ℚ} (hx : Exact x (q * r)) (hy : Exact y r) (hr : r ≠ 0)
    (hq : ∃ m e, OnGrid m e ∧ |q| = m * 2 ^ e) : Exact (x / y) q := by
  have hdiv : x / y = packed (UnpackedFloat.div Format.binary64 (unpacked x) (unpacked y)) := rfl
  obtain ⟨_, -, rfl⟩ | ⟨s₂, m₂, e₂, hm₂, huy, -, hvalue₂⟩ := exact_iff.mp hy
  · exact absurd rfl hr
  obtain ⟨s₁, hux, hzero⟩ | ⟨s₁, m₁, e₁, hm₁, hux, -, hvalue₁⟩ := exact_iff.mp hx
  · obtain rfl := (mul_eq_zero.mp hzero).resolve_right hr
    rw [hdiv, hux, huy]
    exact exact_packed_zero _
  obtain ⟨m, e, hgrid, habs⟩ := hq
  have hdivisor : (0 : ℚ) < m₂ * 2 ^ e₂ := by positivity
  have hquotient : (m₁ : ℚ) * 2 ^ e₁ = m * 2 ^ e * (m₂ * 2 ^ e₂) := by
    calc (m₁ : ℚ) * 2 ^ e₁ = |q * r| := by rw [hvalue₁, abs_unit_mul s₁ (by positivity)]
      _ = |q| * |r| := abs_mul q r
      _ = m * 2 ^ e * (m₂ * 2 ^ e₂) := by rw [habs, hvalue₂, abs_unit_mul s₂ hdivisor.le]
  have hm : 0 < m := by
    refine Nat.pos_of_ne_zero ?_
    rintro rfl
    have hpos : (0 : ℚ) < m₁ * 2 ^ e₁ := by positivity
    rw [hquotient] at hpos
    simp at hpos
  have hsign : q * unit s₂ = unit s₁ * (m * 2 ^ e) := by
    refine mul_right_cancel₀ hdivisor.ne' ?_
    calc q * unit s₂ * (m₂ * 2 ^ e₂) = q * r := by rw [mul_assoc, ← hvalue₂]
      _ = unit s₁ * (m₁ * 2 ^ e₁) := hvalue₁
      _ = unit s₁ * (m * 2 ^ e) * (m₂ * 2 ^ e₂) := by rw [hquotient, ← mul_assoc]
  have hvalue : q = unit (s₁ / s₂) * (m * 2 ^ e) := by
    calc q = q * unit s₂ * unit s₂ := by rw [mul_assoc, unit_mul_self, mul_one]
      _ = unit (s₁ / s₂) * (m * 2 ^ e) := by rw [hsign, unit_div, mul_right_comm]
  rw [hdiv, hux, huy, div_finite hgrid hm₁ hm₂ hm hquotient, hvalue]
  exact exact_packed_finite hgrid

end Number

end GridLayout
