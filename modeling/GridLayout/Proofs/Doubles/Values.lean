import GridLayout.Proofs.Doubles.Words

/-!
# Exact values of doubles

A finite double has an exact value, a rational number.  Where this is an integer, the double is
whole and its integer part is that integer; and the integers that are values of doubles are closed
under division: what they are multiples of is the value of a double as well.

* `Exact`: a double has a value.
* `exact_iff`: the unpacked numbers with a value.
* `Exact.isWhole`, `Exact.truncate`: a double with an integer for its value.
* `Exact.exists_onGrid`: a factor of an integer that is the value of a double.
* `Exact.four_dvd`: integers far from zero that are values of doubles are multiples of four.
-/

namespace GridLayout

namespace Number

open Float.Model (UnpackedFloat)
open Float.Model.UnpackedFloat (Sign)

/-! ## Values -/

/-- The value of a significand, an exponent and a sign. -/
def Dyadic.value (d : Dyadic) : ℚ :=
  (if d.negative then -1 else 1) * (d.mantissa * 2 ^ d.exponent)

/-- A double is finite and has this value. -/
def Exact (x : Float) (q : ℚ) : Prop :=
  ∃ d, Parts.ofFloat x = .finite d ∧ d.value = q

/-- A sign as a factor. -/
def unit : Sign → ℚ
  | .negative => -1
  | .positive => 1

theorem unit_div (s t : Sign) : unit (s / t) = unit s * unit t := by
  cases s <;> cases t
  · exact (neg_one_mul (-1 : ℚ)).symm ▸ (neg_neg (1 : ℚ)).symm
  · exact (mul_one (-1 : ℚ)).symm
  · exact (one_mul (-1 : ℚ)).symm
  · exact (one_mul (1 : ℚ)).symm

theorem unit_mul_self (s : Sign) : unit s * unit s = 1 := by
  cases s <;> norm_num [unit]

theorem abs_unit_mul (s : Sign) {a : ℚ} (ha : 0 ≤ a) : |unit s * a| = a := by
  cases s
  · rw [unit, neg_one_mul, abs_neg, abs_of_nonneg ha]
  · rw [unit, one_mul, abs_of_nonneg ha]

theorem value_mk (s : Sign) (m : ℕ) (e : ℤ) :
    Dyadic.value ⟨s == .negative, m, e⟩ = unit s * (m * 2 ^ e) := by
  cases s <;> rfl

/-- Doubles with a value are zeros and finite numbers. -/
theorem exact_iff {x : Float} {q : ℚ} :
    Exact x q ↔ (∃ s, unpacked x = .zero s ∧ q = 0) ∨
      ∃ s m e hm, unpacked x = .finite s m e hm ∧ OnGrid m e ∧ q = unit s * (m * 2 ^ e) := by
  have hheld := held_unpacked x
  rw [Exact, ofFloat_eq_ofUnpacked]
  cases hx : unpacked x with
  | infinity s => simp [Parts.ofUnpacked]
  | notANumber => simp [Parts.ofUnpacked]
  | zero s => simp [Parts.ofUnpacked, value_mk, eq_comm]
  | finite s m e hm =>
    rw [hx] at hheld
    have hgrid : OnGrid m e := hheld
    simp [Parts.ofUnpacked, value_mk, eq_comm, hgrid, hm]

theorem exact_packed_zero (s : Sign) : Exact (packed (.zero s)) 0 :=
  exact_iff.mpr (.inl ⟨s, unpacked_packed trivial, rfl⟩)

theorem exact_packed_finite {s : Sign} {m : ℕ} {e : ℤ} {hm : 0 < m} (h : OnGrid m e) :
    Exact (packed (.finite s m e hm)) (unit s * (m * 2 ^ e)) :=
  exact_iff.mpr (.inr ⟨s, m, e, hm, unpacked_packed h, h, rfl⟩)

theorem onGrid_zero : OnGrid 0 (-1074) := ⟨by decide, by decide, by decide, .inr rfl⟩

/-- The absolute value of the value of a double fits on the grid. -/
theorem Exact.abs_onGrid {x : Float} {q : ℚ} (h : Exact x q) :
    ∃ m e, OnGrid m e ∧ |q| = m * 2 ^ e := by
  obtain ⟨_, -, rfl⟩ | ⟨s, m, e, -, -, hgrid, rfl⟩ := exact_iff.mp h
  · exact ⟨0, -1074, onGrid_zero, by simp⟩
  · exact ⟨m, e, hgrid, abs_unit_mul s (by positivity)⟩

/-! ## Integers -/

/-- A significand times a power of two that is an integer, without negative exponents. -/
theorem mul_two_zpow_eq_iff {m n : ℕ} {e : ℤ} :
    (m : ℚ) * 2 ^ e = n ↔ m * 2 ^ e.toNat = n * 2 ^ (-e).toNat := by
  have htwo : (2 : ℚ) ^ e * 2 ^ (-e).toNat = 2 ^ e.toNat := by
    rw [← zpow_natCast, ← zpow_natCast, ← zpow_add₀ two_ne_zero]
    congr 1
    omega
  have hpos : (0 : ℚ) < 2 ^ (-e).toNat := by positivity
  rw [← mul_left_inj' hpos.ne', mul_assoc, htwo]
  exact_mod_cast Iff.rfl

section

variable {x : Float} {k : ℤ}

/-- The parts of a double with an integer for its value. -/
theorem Exact.parts (h : Exact x k) : ∃ d, Parts.ofFloat x = .finite d ∧
    d.mantissa * 2 ^ d.exponent.toNat = k.natAbs * 2 ^ (-d.exponent).toNat ∧
    k = if d.negative then -(k.natAbs : ℤ) else k.natAbs := by
  obtain ⟨⟨negative, m, e⟩, hparts, hvalue⟩ := h
  have hm : (0 : ℚ) ≤ m * 2 ^ e := by positivity
  refine ⟨_, hparts, mul_two_zpow_eq_iff.mp ?_, ?_⟩
  · rw [Nat.cast_natAbs, Int.cast_abs, ← hvalue, Dyadic.value, abs_mul, abs_of_nonneg hm]
    cases negative <;> norm_num
  · rw [Dyadic.value] at hvalue
    cases negative with
    | false =>
      have hk : 0 ≤ k := by
        have : (0 : ℚ) ≤ k := by rw [← hvalue]; simpa using hm
        exact_mod_cast this
      simpa using (abs_of_nonneg hk).symm
    | true =>
      have hk : k ≤ 0 := by
        have : (k : ℚ) ≤ 0 := by rw [← hvalue]; simpa using hm
        exact_mod_cast this
      simp [abs_of_nonpos hk]

theorem Exact.isWhole (h : Exact x k) : isWhole x = true := by
  obtain ⟨d, hparts, hmul, -⟩ := h.parts
  rw [Number.isWhole, hparts]
  show (d.mantissa * 2 ^ d.exponent.toNat % 2 ^ (-d.exponent).toNat == 0) = true
  rw [hmul, Nat.mul_mod_left]
  rfl

theorem Exact.truncate (h : Exact x k) : truncate x = k := by
  obtain ⟨d, hparts, hmul, hk⟩ := h.parts
  have hquotient : d.mantissa * 2 ^ d.exponent.toNat / 2 ^ (-d.exponent).toNat = k.natAbs := by
    rw [hmul, Nat.mul_div_cancel _ (by positivity)]
  rw [Number.truncate, hparts]
  show (if d.negative then -Int.ofNat (d.mantissa * 2 ^ d.exponent.toNat / 2 ^ (-d.exponent).toNat)
    else Int.ofNat (d.mantissa * 2 ^ d.exponent.toNat / 2 ^ (-d.exponent).toNat)) = k
  rw [hquotient]
  exact hk.symm

/-- An integer that is the value of a double is a multiple of four if it is far from zero: without
zeros at its end a significand does not reach that far. -/
theorem Exact.four_dvd (h : Exact x k) (hk : 2 ^ 63 ≤ k.natAbs) : (4 : ℤ) ∣ k := by
  obtain ⟨m, e, hgrid, habs⟩ := h.abs_onGrid
  rw [← Int.cast_abs, ← Nat.cast_natAbs, eq_comm] at habs
  have hmul := mul_two_zpow_eq_iff.mp habs
  have hlarge : 11 ≤ e := by
    by_contra hsmall
    have hle : k.natAbs ≤ k.natAbs * 2 ^ (-e).toNat := Nat.le_mul_of_pos_right _ (by positivity)
    have hpow : 2 ^ e.toNat ≤ 2 ^ 10 := Nat.pow_le_pow_right (by decide) (by omega)
    have hlt : m * 2 ^ e.toNat < 2 ^ 53 * 2 ^ 10 :=
      Nat.mul_lt_mul_of_lt_of_le hgrid.lt hpow (by decide)
    omega
  obtain ⟨i, hi⟩ := Nat.exists_eq_add_of_le (show 2 ≤ e.toNat by omega)
  have hzero : (-e).toNat = 0 := by omega
  rw [hi, hzero, pow_zero, mul_one, pow_add] at hmul
  exact Int.natCast_dvd.mpr ⟨m * 2 ^ i, by rw [← hmul]; ring⟩

/-- An odd significand of at most fifty-three bits is filled up to fifty-three. -/
theorem exists_onGrid_of_odd {o j : ℕ} (hpos : 0 < o) (ho : o < 2 ^ 53)
    (hbound : (o : ℚ) * 2 ^ j < 2 ^ 1024) :
    ∃ m e, OnGrid m e ∧ (o : ℚ) * 2 ^ j = m * 2 ^ e := by
  have hlog : o.log2 < 53 := (Nat.log2_lt hpos.ne').mpr ho
  obtain ⟨i, hi⟩ := Nat.exists_eq_add_of_le (Nat.le_of_lt_succ hlog)
  obtain ⟨hlow, hhigh⟩ := (Nat.log2_eq_iff hpos.ne').mp rfl
  have hlow : 2 ^ 52 ≤ o * 2 ^ i := by
    rw [hi, pow_add]
    exact Nat.mul_le_mul_right _ hlow
  have hhigh : o * 2 ^ i < 2 ^ 53 := by
    have hsplit : (2 : ℕ) ^ 53 = 2 ^ (o.log2 + 1) * 2 ^ i := by
      rw [← pow_add]
      congr 1
      omega
    rw [hsplit]
    exact Nat.mul_lt_mul_of_pos_right hhigh (by positivity)
  have hvalue : (o : ℚ) * 2 ^ j = ((o * 2 ^ i : ℕ) : ℚ) * 2 ^ ((j : ℤ) - i) := by
    rw [Nat.cast_mul, Nat.cast_pow, Nat.cast_ofNat, mul_assoc, ← zpow_natCast 2 i,
      ← zpow_add₀ two_ne_zero, ← zpow_natCast 2 j]
    congr 2
    omega
  have hupper : (j : ℤ) - i < 972 := by
    have hlt : (2 : ℚ) ^ (52 + ((j : ℤ) - i)) < 2 ^ (1024 : ℤ) := by
      calc (2 : ℚ) ^ (52 + ((j : ℤ) - i)) = ((2 ^ 52 : ℕ) : ℚ) * 2 ^ ((j : ℤ) - i) := by
            rw [zpow_add₀ two_ne_zero]
            norm_num
        _ ≤ ((o * 2 ^ i : ℕ) : ℚ) * 2 ^ ((j : ℤ) - i) := by
            gcongr
        _ < 2 ^ (1024 : ℤ) := by
            rw [← hvalue]
            exact_mod_cast hbound
    have := (zpow_lt_zpow_iff_right₀ (by norm_num)).mp hlt
    omega
  exact ⟨o * 2 ^ i, (j : ℤ) - i, ⟨hhigh, by omega, by omega, .inl hlow⟩, hvalue⟩

/-- A factor of an integer that is the value of a double fits on the grid: its odd part is a factor
of the significand. -/
theorem Exact.exists_onGrid {c : ℤ} (h : Exact x (c * k)) (hc : c ≠ 0) :
    ∃ m e, OnGrid m e ∧ |(k : ℚ)| = m * 2 ^ e := by
  by_cases hk : k = 0
  · exact ⟨0, -1074, onGrid_zero, by simp [hk]⟩
  obtain ⟨m, e, hgrid, habs⟩ := h.abs_onGrid
  have hproduct : (m : ℚ) * 2 ^ e = ((c.natAbs * k.natAbs : ℕ) : ℚ) := by
    rw [← habs, abs_mul, Nat.cast_mul, Nat.cast_natAbs, Nat.cast_natAbs, Int.cast_abs, Int.cast_abs]
  have hmul := mul_two_zpow_eq_iff.mp hproduct
  obtain ⟨j, o, hodd, hko⟩ := Nat.exists_eq_two_pow_mul_odd (Int.natAbs_ne_zero.mpr hk)
  have hpos : 0 < o := hodd.pos
  -- Powers of two are on both sides, and the odd part can only come from the significand.
  have hdvd : o ∣ m := by
    refine (Nat.Coprime.pow_right e.toNat hodd.coprime_two_right).dvd_of_dvd_mul_right ?_
    rw [hmul, hko]
    exact ⟨c.natAbs * 2 ^ j * 2 ^ (-e).toNat, by ring⟩
  have hm : 0 < m := by
    refine Nat.pos_of_ne_zero ?_
    rintro rfl
    rw [Nat.zero_mul, eq_comm, Nat.mul_eq_zero] at hmul
    simp [hc, hk] at hmul
  have hvalue : |(k : ℚ)| = (o : ℚ) * 2 ^ j := by
    rw [← Int.cast_abs, ← Nat.cast_natAbs, hko]
    push_cast
    ring
  rw [hvalue]
  refine exists_onGrid_of_odd hpos ((Nat.le_of_dvd hm hdvd).trans_lt hgrid.lt) ?_
  have hone : (1 : ℚ) ≤ |(c : ℚ)| := by exact_mod_cast Int.one_le_abs hc
  calc (o : ℚ) * 2 ^ j = |(k : ℚ)| := hvalue.symm
    _ ≤ |(c : ℚ)| * |(k : ℚ)| := le_mul_of_one_le_left (abs_nonneg _) hone
    _ = m * 2 ^ e := by rw [← abs_mul, habs]
    _ < 2 ^ 53 * 2 ^ (971 : ℤ) := by
      have hmlt : (m : ℚ) < 2 ^ 53 := by exact_mod_cast hgrid.lt
      have hele : (2 : ℚ) ^ e ≤ 2 ^ (971 : ℤ) := zpow_le_zpow_right₀ (by norm_num) hgrid.upper
      exact mul_lt_mul hmlt hele (by positivity) (by positivity)
    _ = 2 ^ 1024 := by rw [zpow_ofNat, ← pow_add]

end

end Number

end GridLayout
