/-!
# Doubles as exact numbers

A finite double is an integer times a power of two, and every question the library asks about the
text of a number is a question about that exact value.  This module goes both ways:

* `Parts.ofFloat` reads the value of a double off its bit pattern;
* `nearest` finds the double closest to a fraction, a tie going to the even significand.

Between the two lies only natural-number arithmetic, so nothing here depends on how the machine
rounds.

## The grid of doubles

Consecutive bit patterns of non-negative doubles are consecutive doubles.  A significand `m` on the
grid of spacing `2 ^ (-k)` therefore has the pattern `(1074 - k) * 2 ^ 52 + m`, whether it is
subnormal, normal, or has just carried into the next binade; `nearest` uses that one formula.
-/

namespace GridLayout

namespace Number

/-! ## Powers and bounds -/

/-- A power of two. -/
def twoPow (k : Nat) : Nat := Nat.pow 2 k

/-- A power of ten. -/
def tenPow (k : Nat) : Nat := Nat.pow 10 k

/-- The first integer beyond those of sixty-four bits with a sign. -/
def wordBound : Int := 9223372036854775808

/-- Whether an integer fits into sixty-four bits with its sign. -/
def isWord (n : Int) : Bool := -wordBound ≤ n && n < wordBound

/-! ## Rounding a quotient -/

/-- The integer nearest to `num / den`, a tie going to the even one. -/
def roundHalfEven (num den : Nat) : Nat :=
  let q := num / den
  let r := num % den
  if den < 2 * r || (2 * r == den && q % 2 == 1) then q + 1 else q

/-! ## Reading a double -/

/-- The exact value `± mantissa * 2 ^ exponent` of a finite double. -/
structure Dyadic where
  negative : Bool
  mantissa : Nat
  exponent : Int
  deriving DecidableEq, Repr

/-- What a bit pattern of sixty-four bits stands for. -/
inductive Parts where
  | nan
  | infinite (negative : Bool)
  | finite (value : Dyadic)
  deriving DecidableEq, Repr

/-- Sign, exponent and fraction fields of a bit pattern, with the hidden bit put back. -/
def Parts.ofBits (bits : Nat) : Parts :=
  let negative := bits / twoPow 63 % 2 == 1
  let field : Nat := bits / twoPow 52 % twoPow 11
  let fraction : Nat := bits % twoPow 52
  if field == 2047 then
    if fraction == 0 then .infinite negative else .nan
  else if field == 0 then
    .finite ⟨negative, fraction, -1074⟩
  else
    .finite ⟨negative, fraction + twoPow 52, (field : Int) - 1075⟩

/-- The parts of a double. -/
def Parts.ofFloat (x : Float) : Parts :=
  Parts.ofBits x.toBits.toNat

/-! ## Finding a double -/

/-- The bit pattern of positive infinity, the first pattern above all finite ones. -/
def infinityBits : Nat := 2047 * twoPow 52

/-- The bit pattern of the double nearest to `num / den`, a tie going to the even significand.

The shift `k` puts the quotient on the grid that a significand of fifty-three bits needs, and never
beyond the finest grid there is, that of the subnormal numbers. -/
def nearestBits (num den : Nat) : Nat :=
  if num == 0 then 0 else
    let wide : Int := 53 - ((num.log2 : Int) - (den.log2 : Int))
    let scaled (k : Int) : Nat × Nat := (num * twoPow k.toNat, den * twoPow (-k).toNat)
    let (n, d) := scaled wide
    let fitting := if twoPow 53 ≤ n / d then wide - 1 else wide
    let k := min fitting 1074
    let (n, d) := scaled k
    let bits : Nat := (1074 - k).toNat * twoPow 52 + roundHalfEven n d
    min bits infinityBits

/-- The double nearest to `num / den`, a tie going to the even significand; infinite when the
quotient lies beyond the largest finite double and its half step. -/
def nearest (num den : Nat) : Float :=
  Float.ofBits (nearestBits num den).toUInt64

/-- The double nearest to `digits * 10 ^ exponent`. -/
def nearestDecimal (digits : Nat) (exponent : Int) : Float :=
  nearest (digits * tenPow exponent.toNat) (tenPow (-exponent).toNat)

/-- The double nearest to an integer. -/
def nearestInt : Int → Float
  | .ofNat n => nearest n 1
  | .negSucc n => -nearest (n + 1) 1

/-- The integer part of a double, towards zero; zero for what is not finite. -/
def truncate (x : Float) : Int :=
  match Parts.ofFloat x with
  | .finite ⟨negative, m, e⟩ =>
    let n : Int := Int.ofNat (m * twoPow e.toNat / twoPow (-e).toNat)
    if negative then -n else n
  | _ => 0

/-- A finite double is whole when its exact value has no fractional part. -/
def isWhole (x : Float) : Bool :=
  match Parts.ofFloat x with
  | .finite ⟨_, m, e⟩ => m * twoPow e.toNat % twoPow (-e).toNat == 0
  | _ => false

end Number

end GridLayout
