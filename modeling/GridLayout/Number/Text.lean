import GridLayout.Number.Shortest

/-!
# Texts of a double

Three written forms of a number are in use, all from exact digits.

* `plain`: the shortest digits, positional, without an exponent and without a fraction where there
  is none; a tie goes up.  Messages and grid areas are written this way.
* `token`: the shortest digits in a form every JSON reader takes back as a fractional number.
  Positional with at least one decimal from `0.00001` up to, but not including, `1e16`; scientific
  outside that range; a tie goes to the even last digit.
* `fixed`: a given number of decimals, a tie going to the even last digit.
-/

namespace GridLayout

namespace Number

/-- `n` zeros. -/
def zeros (n : Nat) : String := String.ofList (List.replicate n '0')

/-- The decimal digits of a natural number. -/
def digitString (n : Nat) : String := String.ofList (Nat.toDigits 10 n)

/-- The first `n` characters of a text and the rest. -/
def splitText (s : String) (n : Nat) : String × String :=
  (String.ofList (s.toList.take n), String.ofList (s.toList.drop n))

/-! ## Layout of a decimal -/

/-- Positional text of a decimal: no exponent, and a point only where a fraction follows. -/
def Decimal.positional (d : Decimal) : String :=
  let s := digitString d.digits
  let point : Int := (s.length : Int) + d.exponent
  if 0 ≤ d.exponent then s ++ zeros d.exponent.toNat
  else if 0 < point then
    let (whole, fraction) := splitText s point.toNat
    whole ++ "." ++ fraction
  else "0." ++ zeros (-point).toNat ++ s

/-- Scientific text of a decimal: one digit before the point, no point after a lone digit, and a
sign on the exponent. -/
def Decimal.scientific (d : Decimal) : String :=
  let s := digitString d.digits
  let (lead, fraction) := splitText s 1
  let power : Int := (s.length : Int) + d.exponent - 1
  let sign := if power < 0 then "-" else "+"
  lead ++ (if fraction.isEmpty then "" else "." ++ fraction) ++ "e" ++ sign ++
    digitString power.natAbs

/-- The place of the decimal point, counted from the first digit. -/
def Decimal.point (d : Decimal) : Int := ((digitString d.digits).length : Int) + d.exponent

/-- Text of a decimal as a fractional JSON number. -/
def Decimal.token (d : Decimal) : String :=
  if -5 < d.point && d.point ≤ 16 then
    if 0 ≤ d.exponent then d.positional ++ ".0" else d.positional
  else d.scientific

/-! ## Texts of a double -/

/-- Prefixes the sign. -/
def signed (negative : Bool) (text : String) : String :=
  if negative then "-" ++ text else text

/-- Positional text of a double with the fewest digits. -/
def plain (x : Float) : String :=
  match Parts.ofFloat x with
  | .nan => "NaN"
  | .infinite negative => signed negative "inf"
  | .finite d =>
    signed d.negative (if d.mantissa == 0 then "0" else (d.shortest .up).positional)

/-- JSON number text of a finite double; what is not finite has no number text and is `null`. -/
def token (x : Float) : String :=
  match Parts.ofFloat x with
  | .nan => "null"
  | .infinite _ => "null"
  | .finite d =>
    signed d.negative (if d.mantissa == 0 then "0.0" else (d.shortest .even).token)

/-- Text of a double with exactly `places` decimals. -/
def fixed (places : Nat) (x : Float) : String :=
  match Parts.ofFloat x with
  | .nan => "NaN"
  | .infinite negative => signed negative "inf"
  | .finite d =>
    let n := roundHalfEven (d.mantissa * twoPow d.exponent.toNat * tenPow places)
      (twoPow (-d.exponent).toNat)
    let s := digitString n
    let padded := zeros (places + 1 - s.length) ++ s
    let (whole, fraction) := splitText padded (padded.length - places)
    signed d.negative (whole ++ (if places == 0 then "" else "." ++ fraction))

end Number

end GridLayout
