import GridLayout.Number.Binary64

/-!
# The shortest digits of a double

Many decimals read back as the same double: all those in the interval of reals that round to it.
`shortest` picks, among them, a decimal with the fewest digits, and of those the nearest to the
exact value.  Where two are equally near, a `Tie` says which is taken.

The search runs over decimal grids, coarse to fine.  On the grid of spacing `10 ^ g` only the two
neighbours of the exact value have to be tried: if any point of the grid lies in the interval, so
does the nearest point on one of the two sides.  The first grid with a hit therefore has the fewest
digits.  All tests are comparisons of natural numbers: value, interval and grid are put over one
common denominator.
-/

namespace GridLayout

namespace Number

/-- The decimal number `digits * 10 ^ exponent`. -/
structure Decimal where
  digits : Nat
  exponent : Int
  deriving DecidableEq, Repr

/-- Which of two equally near decimals is taken. -/
inductive Tie where
  /-- The one whose last digit is even. -/
  | even
  /-- The greater one. -/
  | up
  deriving DecidableEq, Repr

/-! ## The interval of a double -/

/-- The reals that round to a positive double, in quarters of its last place: the double itself is
`4 * mantissa`, and the ends belong to the interval when the significand is even.  Below a power of
two the doubles lie twice as close. -/
structure Interval where
  low : Nat
  value : Nat
  high : Nat
  closed : Bool

/-- The interval of a positive dyadic number. -/
def Dyadic.interval (d : Dyadic) : Interval where
  low := if d.mantissa == twoPow 52 && -1074 < d.exponent then 4 * d.mantissa - 1
    else 4 * d.mantissa - 2
  value := 4 * d.mantissa
  high := 4 * d.mantissa + 2
  closed := d.mantissa % 2 == 0

/-- Whether `n / s` lies in the interval. -/
def Interval.contains (i : Interval) (n s : Nat) : Bool :=
  if i.closed then i.low * s ≤ n && n ≤ i.high * s else i.low * s < n && n < i.high * s

/-! ## The search -/

/-- The nearest decimal of spacing `10 ^ g` that rounds to `d`, if there is one. -/
def Dyadic.onGrid? (d : Dyadic) (tie : Tie) (g : Int) : Option Nat :=
  let quarter := d.exponent - 2
  let up := twoPow quarter.toNat * tenPow (-g).toNat
  let unit := tenPow g.toNat * twoPow (-quarter).toNat
  let i := d.interval
  let below := i.value * up / unit
  let hits (n : Nat) : Bool := 0 < n && i.contains (n * unit) up
  let rest := i.value * up % unit
  let lower := 2 * rest < unit || (2 * rest == unit && tie == .even && below % 2 == 0)
  match hits below, hits (below + 1) with
  | true, true => some (if lower then below else below + 1)
  | true, false => some below
  | false, true => some (below + 1)
  | false, false => none

/-- Tries the grids `g, g - 1, …` until one has a hit. -/
def Dyadic.search (d : Dyadic) (tie : Tie) : Nat → Int → Decimal
  | 0, g => ⟨d.mantissa, g⟩
  | fuel + 1, g =>
    match d.onGrid? tie g with
    | some n => ⟨n, g⟩
    | none => d.search tie fuel (g - 1)

/-- The shortest decimal that rounds to a positive dyadic number.  The first grid tried is coarser
than the number, and seventeen digits always suffice. -/
def Dyadic.shortest (d : Dyadic) (tie : Tie) : Decimal :=
  let magnitude : Int := (d.mantissa.log2 : Int) + d.exponent + 1
  d.search tie 24 (magnitude * 30103 / 100000 + 1)

end Number

end GridLayout
