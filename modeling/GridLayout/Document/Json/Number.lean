import GridLayout.Document.Fault
import GridLayout.Number.Binary64
import GridLayout.Text.Cursor

/-!
# JSON numbers

An integer of sixty-four bits is taken exactly; every other number is a double.  The digits of a
double are gathered into a significand of sixty-four bits, and digits beyond that only count
towards the exponent; the significand is then scaled by a power of ten.  A double read this way may
be off in its last place, and is read the same way every time.

`readNumber` starts at the first character of a number, its sign included; `skipNumber` passes over
a number without asking for its value.
-/

namespace GridLayout

namespace Json

/-- A number as it is read. -/
inductive Numeral where
  | int (n : Int)
  | float (x : Float)

/-- The bound of significands. -/
def significandBound : Nat := Number.twoPow 64

/-- The bound of exponents. -/
def exponentBound : Nat := Number.twoPow 31

/-- The value of a decimal digit. -/
def digitValue (c : Char) : Nat := c.toNat - 48

/-- Digits gathered into a significand. -/
structure Gathered where
  significand : Nat
  /-- The number of digits that the significand took. -/
  taken : Nat
  /-- The number of digits that it did not. -/
  left : Nat

/-- Takes digits into a significand until the first that no longer fits. -/
def gather : Nat → List Char → Gathered
  | s, [] => ⟨s, 0, 0⟩
  | s, d :: ds =>
    if 10 * s + digitValue d < significandBound then
      let g := gather (10 * s + digitValue d) ds
      { g with taken := g.taken + 1 }
    else ⟨s, 0, ds.length + 1⟩

/-! ## Scaling -/

/-- The greatest power of ten that is a double. -/
def greatestPower : Nat := 308

/-- A power of ten as a double. -/
def powerOfTen (n : Nat) : Float := Number.nearestDecimal 1 n

/-- A double divided by a power of ten of any size, by steps that are doubles. -/
def scaleDown : Nat → Float → Nat → Float
  | 0, x, n => x / powerOfTen n
  | fuel + 1, x, n =>
    if n ≤ greatestPower then x / powerOfTen n
    else if x == 0.0 then x
    else scaleDown fuel (x / powerOfTen greatestPower) (n - greatestPower)

/-- The double `significand * 10 ^ exponent`, if it is not too large. -/
def scaled? (significand : Nat) (exponent : Int) : Option Float :=
  let x := Number.nearest significand 1
  if exponent < 0 then some (scaleDown (exponent.natAbs / greatestPower + 1) x exponent.natAbs)
  else if exponent ≤ greatestPower then
    let y := x * powerOfTen exponent.toNat
    if y.isInf then none else some y
  else if significand == 0 then some x
  else none

/-- A number with its sign. -/
def signedFloat (negative : Bool) (x : Float) : Float := if negative then -x else x

/-! ## Reading -/

/-- Whether a character is a decimal digit. -/
def isDigit (c : Char) : Bool := '0' ≤ c && c ≤ '9'

/-- Whether the text goes on with an exponent. -/
def atExponent (c : Cursor) : Bool := c.at? 'e' || c.at? 'E'

/-- The scaled number, or the fault of one that is too large. -/
def finish (negative : Bool) (significand : Nat) (exponent : Int) (c : Cursor) :
    Except Fault (Numeral × Cursor) :=
  match scaled? significand exponent with
  | some x => .ok (.float (signedFloat negative x), c)
  | none => .error (.json .numberOutOfRange c.offset)

/-- Gathers the digits of an exponent; the last component says whether they became too many. -/
def gatherExponent : Nat → List Char → Nat → Nat × Nat × Bool
  | e, [], used => (e, used, false)
  | e, d :: ds, used =>
    if 10 * e + digitValue d < exponentBound then
      gatherExponent (10 * e + digitValue d) ds (used + 1)
    else (e, used + 1, true)

/-- The nearest number that an exponent may be. -/
def clampExponent (e : Int) : Int :=
  Max.max (-(exponentBound : Int)) (Min.min e ((exponentBound : Int) - 1))

/-- Reads an exponent and finishes the number. -/
def readExponent (negative : Bool) (significand : Nat) (start : Int) (c : Cursor) :
    Except Fault (Numeral × Cursor) :=
  let c := c.next
  let down := c.at? '-'
  let c := if down || c.at? '+' then c.next else c
  match c.rest with
  | [] => .error (.json .endInValue c.offset)
  | ch :: _ =>
    if isDigit ch then
      let (digits, behind) := c.takeWhile isDigit
      let (e, used, overflow) := gatherExponent 0 digits 0
      if overflow then
        if significand == 0 || down then .ok (.float (signedFloat negative 0.0), behind)
        else .error (.json .numberOutOfRange (c.offset + used))
      else
        finish negative significand (clampExponent (if down then start - e else start + e)) behind
    else .error (.json .badNumber (c.offset + 1))

/-- Reads the decimals behind a point and finishes the number. -/
def readDecimals (negative : Bool) (significand : Nat) (start : Int) (c : Cursor) :
    Except Fault (Numeral × Cursor) :=
  let (digits, behind) := c.next.takeWhile isDigit
  if digits.isEmpty then
    if behind.rest.isEmpty then .error (.json .endInValue behind.offset)
    else .error (.json .badNumber (behind.offset + 1))
  else
    let g := gather significand digits
    let exponent := start - (g.taken : Int)
    if atExponent behind then readExponent negative g.significand exponent behind
    else finish negative g.significand exponent behind

/-- Reads what follows the digits before the point.  `left` of them are not in the significand. -/
def readTail (negative : Bool) (significand left : Nat) (c : Cursor) :
    Except Fault (Numeral × Cursor) :=
  if c.at? '.' then readDecimals negative significand left c
  else if atExponent c then readExponent negative significand left c
  else if left ≠ 0 then finish negative significand left c
  else if !negative then .ok (.int significand, c)
  else if significand == 0 || Number.twoPow 63 < significand then
    .ok (.float (-Number.nearest significand 1), c)
  else .ok (.int (-(significand : Int)), c)

/-- Reads a number. -/
def readNumber (c : Cursor) : Except Fault (Numeral × Cursor) :=
  let negative := c.at? '-'
  let c := if negative then c.next else c
  match c.rest with
  | [] => .error (.json .endInValue c.offset)
  | '0' :: _ =>
    if c.next.satisfies isDigit then .error (.json .badNumber (c.next.offset + 1))
    else readTail negative 0 0 c.next
  | ch :: _ =>
    if isDigit ch then
      let (digits, behind) := c.takeWhile isDigit
      let g := gather 0 digits
      readTail negative g.significand g.left behind
    else .error (.json .badNumber (c.offset + 1))

/-! ## Passing over -/

/-- The offset behind the next character, or behind the last one. -/
def peekOffset (c : Cursor) : Nat := if c.rest.isEmpty then c.offset else c.offset + 1

/-- Passes over an exponent. -/
def skipExponent (c : Cursor) : Except Fault Cursor :=
  let c := c.next
  let c := if c.at? '-' || c.at? '+' then c.next else c
  if c.satisfies isDigit then .ok (c.dropWhile isDigit)
  else .error (.json .badNumber (peekOffset c))

/-- Passes over a number. -/
def skipNumber (c : Cursor) : Except Fault Cursor := do
  let c := if c.at? '-' then c.next else c
  if !c.satisfies isDigit then throw (.json .badNumber (peekOffset c))
  if c.at? '0' && c.next.satisfies isDigit then throw (.json .badNumber (peekOffset c.next))
  let c := c.dropWhile isDigit
  if c.at? '.' then
    let c := c.next
    if !c.satisfies isDigit then throw (.json .badNumber (peekOffset c))
    let c := c.dropWhile isDigit
    if atExponent c then skipExponent c else return c
  else if atExponent c then skipExponent c
  else return c

end Json

end GridLayout
