import GridLayout.Number.Binary64
import Mathlib

/-!
# Doubles and their words

A double is a word of sixty-four bits: a sign, a field of eleven bits for the exponent and a
fraction of fifty-two bits.  Operations on doubles take words apart into unpacked numbers, compute
with those, and put the result together again.  Taking apart and putting together undo each other:
on the words of doubles, by `pack_unpack_of_valid` of the library, and on all unpacked numbers that
a word can hold.

So an operation on doubles is the operation on unpacked numbers, whenever its result can be held.

* `unpack_word`, `pack_subnormal`, `pack_normal`: both directions in terms of the fields.
* `packed_unpacked`, `unpacked_packed`: there and back.
* `neg_neg_float`: changing the sign of a double twice.
* `ofFloat_eq_ofUnpacked`: the exact value of a double is that of the unpacked number.
-/

namespace GridLayout

namespace Number

open Float.Model (UnpackedFloat Format)
open Float.Model.UnpackedFloat

/-! ## Words -/

/-- The word of a sign, an exponent field and a fraction. -/
def word (s : Sign) (field fraction : Nat) : BitVec 64 :=
  packComponents Format.binary64 s (BitVec.ofNat 11 field) (BitVec.ofNat 52 fraction)

section

variable {s : Sign} {field fraction : Nat}

theorem toNat_append_fields (s : BitVec 1) (e : BitVec 11) (m : BitVec 52) :
    (s ++ e ++ m).toNat = s.toNat * 2 ^ 63 + e.toNat * 2 ^ 52 + m.toNat := by
  rw [BitVec.toNat_append, BitVec.toNat_append, ← Nat.shiftLeft_add_eq_or_of_lt m.isLt,
    ← Nat.shiftLeft_add_eq_or_of_lt e.isLt, Nat.shiftLeft_eq, Nat.shiftLeft_eq]
  omega

theorem toNat_ofNat_field (hfield : field < 2 ^ 11) : (BitVec.ofNat 11 field).toNat = field := by
  rw [BitVec.toNat_ofNat, Nat.mod_eq_of_lt hfield]

theorem toNat_ofNat_fraction (hfraction : fraction < 2 ^ 52) :
    (BitVec.ofNat 52 fraction).toNat = fraction := by
  rw [BitVec.toNat_ofNat, Nat.mod_eq_of_lt hfraction]

theorem toNat_word (hfield : field < 2 ^ 11) (hfraction : fraction < 2 ^ 52) :
    (word s field fraction).toNat = s.toBitVec.toNat * 2 ^ 63 + field * 2 ^ 52 + fraction := by
  have h := toNat_append_fields s.toBitVec (BitVec.ofNat 11 field) (BitVec.ofNat 52 fraction)
  rwa [toNat_ofNat_field hfield, toNat_ofNat_fraction hfraction] at h

/-- Every word has its fields. -/
theorem exists_word (b : BitVec 64) : ∃ s field fraction,
    field < 2 ^ 11 ∧ fraction < 2 ^ 52 ∧ b = word s field fraction := by
  refine ⟨Sign.ofBitVec (@unpackSign Format.binary64 b),
    (@unpackExponent Format.binary64 b).toNat, (@unpackMantissa Format.binary64 b).toNat,
    BitVec.isLt _, BitVec.isLt _, ?_⟩
  rw [word, BitVec.ofNat_toNat, BitVec.ofNat_toNat, BitVec.setWidth_eq, BitVec.setWidth_eq]
  exact (@packComponents_unpackSign_unpackExponent_unpackMantissa Format.binary64 b).symm

/-! ## Taking apart -/

/-- What a word stands for, by its fields. -/
theorem unpack_word (hfield : field < 2 ^ 11) (hfraction : fraction < 2 ^ 52) :
    unpack Format.binary64 (word s field fraction) =
      if field = 2047 then
        if fraction = 0 then .infinity s else .notANumber
      else if field = 0 then
        if h : fraction = 0 then .zero s
        else .finite s fraction (-1074) (Nat.pos_of_ne_zero h)
      else .finite s (2 ^ 52 + fraction) ((field : Int) - 1075) (by omega) := by
  have hones : BitVec.ofNat 11 field = -1#11 ↔ field = 2047 := by
    rw [← BitVec.toNat_inj, toNat_ofNat_field hfield]
    rfl
  have hzero : BitVec.ofNat 11 field = 0#11 ↔ field = 0 := by
    rw [← BitVec.toNat_inj, toNat_ofNat_field hfield]
    rfl
  have hempty : BitVec.ofNat 52 fraction = 0#52 ↔ fraction = 0 := by
    rw [← BitVec.toNat_inj, toNat_ofNat_fraction hfraction]
    rfl
  have hhidden : (1#1 ++ BitVec.ofNat 52 fraction).toNat = 2 ^ 52 + fraction := by
    rw [BitVec.toNat_append, ← Nat.shiftLeft_add_eq_or_of_lt (BitVec.isLt _),
      toNat_ofNat_fraction hfraction]
    rfl
  simp only [unpack, word, unpackSign_packComponents, Sign.ofBitVec_toBitVec,
    unpackExponent_packComponents, unpackMantissa_packComponents, hones, hzero, hempty,
    toNat_ofNat_field hfield, toNat_ofNat_fraction hfraction, hhidden]
  split
  · rfl
  split
  · next h => rw [h]; rfl
  · rfl

/-! ## Putting together -/

theorem pack_subnormal {m : Nat} (hpos : 0 < m) (hm : m < 2 ^ 52) :
    pack Format.binary64 (.finite s m (-1074) hpos) = word s 0 m := by
  have hlog : m.log2 < 52 := (Nat.log2_lt hpos.ne').mpr hm
  have hbits : ¬ m.log2 + 1 = Format.binary64.mantissaBits := by
    have : Format.binary64.mantissaBits = 53 := rfl
    omega
  simp only [pack]
  rw [if_neg (by decide), if_neg hbits]
  rfl

theorem pack_normal {m : Nat} {e : Int} (hpos : 0 < m) (hlow : 2 ^ 52 ≤ m) (hm : m < 2 ^ 53)
    (hlower : -1074 ≤ e) (hupper : e ≤ 971) :
    pack Format.binary64 (.finite s m e hpos) = word s (e + 1075).toNat (m - 2 ^ 52) := by
  have hbits : m.log2 + 1 = Format.binary64.mantissaBits := by
    rw [(Nat.log2_eq_iff hpos.ne').mpr ⟨hlow, hm⟩]
    rfl
  have hfield : e + (Format.binary64.exponentBias : Int) +
      (Format.binary64.mantissaBitsWithoutImplicit : Int) = e + 1075 := by
    have : (Format.binary64.exponentBias : Int) = 1023 := rfl
    have : (Format.binary64.mantissaBitsWithoutImplicit : Int) = 52 := rfl
    omega
  have hrange : ¬ 2 ^ Format.binary64.exponentBits ≤ (e + 1075).toNat + 1 := by
    have : 2 ^ Format.binary64.exponentBits = 2048 := rfl
    omega
  -- The hidden bit is cut off the significand.
  have hfraction : BitVec.ofNat 52 m = BitVec.ofNat 52 (m - 2 ^ 52) := by
    apply BitVec.eq_of_toNat_eq
    rw [BitVec.toNat_ofNat, BitVec.toNat_ofNat]
    omega
  simp only [pack]
  rw [hfield, if_neg hrange, if_pos hbits, word, ← hfraction]

end

/-! ## There and back -/

/-- Significands and exponents that a word can hold: the hidden bit is set, or the exponent is the
least there is. -/
structure OnGrid (m : Nat) (e : Int) : Prop where
  lt : m < 2 ^ 53
  lower : -1074 ≤ e
  upper : e ≤ 971
  full : 2 ^ 52 ≤ m ∨ e = -1074

/-- Unpacked numbers that a word can hold. -/
def Held : UnpackedFloat → Prop
  | .finite _ m e _ => OnGrid m e
  | _ => True

theorem finite_congr {s : Sign} {m n : Nat} {e f : Int} {hm : 0 < m} {hn : 0 < n} (h : m = n)
    (hexp : e = f) : UnpackedFloat.finite s m e hm = .finite s n f hn := by
  subst h hexp
  rfl

theorem held_unpack (b : BitVec 64) : Held (unpack Format.binary64 b) := by
  obtain ⟨s, field, fraction, hfield, hfraction, rfl⟩ := exists_word b
  rw [unpack_word hfield hfraction]
  split
  · split <;> trivial
  split
  · split
    · trivial
    · exact ⟨by omega, by omega, by omega, .inr rfl⟩
  · exact ⟨by omega, by omega, by omega, .inl (by omega)⟩

theorem unpack_pack {u : UnpackedFloat} (h : Held u) :
    unpack Format.binary64 (pack Format.binary64 u) = u := by
  cases u with
  | infinity s => exact unpack_word (s := s) (by decide : 2047 < 2 ^ 11) (by decide : 0 < 2 ^ 52)
  | notANumber =>
    exact unpack_word (s := .positive) (by decide : 2047 < 2 ^ 11) (by decide : 2 ^ 51 < 2 ^ 52)
  | zero s => exact unpack_word (s := s) (by decide : 0 < 2 ^ 11) (by decide : 0 < 2 ^ 52)
  | finite s m e hpos =>
    obtain ⟨hlt, hlower, hupper, hfull⟩ := h
    by_cases hlow : 2 ^ 52 ≤ m
    · rw [pack_normal hpos hlow hlt hlower hupper, unpack_word (by omega) (by omega),
        if_neg (by omega), if_neg (by omega)]
      exact finite_congr (by omega) (by omega)
    · obtain rfl := hfull.resolve_left hlow
      rw [pack_subnormal hpos (by omega), unpack_word (by decide) (by omega), if_neg (by decide),
        if_pos rfl, dif_neg hpos.ne']

/-! ## Doubles -/

/-- A double taken apart. -/
def unpacked (x : Float) : UnpackedFloat := x.toModel.unpack

/-- A double put together. -/
def packed (u : UnpackedFloat) : Float := .ofModel (.pack u)

theorem held_unpacked (x : Float) : Held (unpacked x) := held_unpack _

theorem unpacked_packed {u : UnpackedFloat} (h : Held u) : unpacked (packed u) = u :=
  unpack_pack h

theorem packed_unpacked (x : Float) : packed (unpacked x) = x := by
  obtain ⟨⟨bits, hvalid⟩⟩ := x
  simp only [packed, unpacked, Float.Model.pack, Float.Model.unpack,
    pack_unpack_of_valid hvalid]

/-- **Changing the sign of a double twice changes nothing**, zeros, infinities and what is not a
number included. -/
theorem neg_neg_float (x : Float) : - -x = x := by
  have hneg : ∀ u : UnpackedFloat, u.neg.neg = u := by
    rintro (s | _ | s | ⟨s, m, e, hm⟩)
    · cases s <;> rfl
    · rfl
    · cases s <;> rfl
    · cases s <;> rfl
  have hheld : Held (unpacked x).neg := by
    have h := held_unpacked x
    cases hu : unpacked x <;> rw [hu] at h <;> exact h
  show packed (unpacked (packed (unpacked x).neg)).neg = x
  rw [unpacked_packed hheld, hneg, packed_unpacked]

/-! ## Exact values -/

/-- The exact value of an unpacked number. -/
def Parts.ofUnpacked : UnpackedFloat → Parts
  | .notANumber => .nan
  | .infinity s => .infinite (s == .negative)
  | .zero s => .finite ⟨s == .negative, 0, -1074⟩
  | .finite s m e _ => .finite ⟨s == .negative, m, e⟩

/-- The exact value that is read off the bits of a double is that of the unpacked number. -/
theorem ofFloat_eq_ofUnpacked (x : Float) : Parts.ofFloat x = Parts.ofUnpacked (unpacked x) := by
  obtain ⟨⟨bits, hvalid⟩⟩ := x
  show Parts.ofBits bits.toBitVec.toNat =
    Parts.ofUnpacked (unpack Format.binary64 bits.toBitVec)
  obtain ⟨s, field, fraction, hfield, hfraction, hword⟩ := exists_word bits.toBitVec
  have hs : s.toBitVec.toNat < 2 := s.toBitVec.isLt
  have hsign : ((word s field fraction).toNat / 2 ^ 63 % 2 == 1) = (s == .negative) := by
    have hbit : (word s field fraction).toNat / 2 ^ 63 % 2 = s.toBitVec.toNat := by
      rw [toNat_word hfield hfraction]
      omega
    rw [hbit]
    cases s <;> rfl
  have hexponent : (word s field fraction).toNat / 2 ^ 52 % 2 ^ 11 = field := by
    rw [toNat_word hfield hfraction]
    omega
  have hrest : (word s field fraction).toNat % 2 ^ 52 = fraction := by
    rw [toNat_word hfield hfraction]
    omega
  rw [hword, unpack_word hfield hfraction, Parts.ofBits]
  simp only [twoPow, Nat.pow_eq, hsign, hexponent, hrest, beq_iff_eq]
  split
  · split <;> rfl
  split
  · split
    · next h => rw [h]; rfl
    · rfl
  · rw [Nat.add_comm]
    rfl

end Number

end GridLayout
