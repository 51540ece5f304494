import GridLayout.Document.Json.Quoted
import GridLayout.Document.Toml.Step
import GridLayout.Number.Binary64

/-!
# TOML numbers

Integers have sixty-four bits with a sign, and are decimal, or hexadecimal, octal or binary behind a
mark.  Fractional numbers are read as the nearest double; positive infinity has to be spelt out.
Digits may be grouped by single underscores.
-/

namespace GridLayout

namespace Toml

/-! ## Digits -/

/-- Whether a character is a decimal digit. -/
def isDigit (c : Char) : Bool := '0' ≤ c && c ≤ '9'

/-- Digits with underscores between them, behind the first digit. -/
def groupFrom (isDigit : Char → Bool) : Nat → Cursor → List Char → Step (List Char)
  | 0, c, acc => .ok (acc.reverse, c)
  | fuel + 1, c, acc =>
    match c.rest with
    | [] => .ok (acc.reverse, c)
    | ch :: _ =>
      if isDigit ch then groupFrom isDigit fuel c.next (ch :: acc)
      else if ch = '_' then
        match c.next.rest with
        | d :: _ =>
          if isDigit d then groupFrom isDigit fuel c.next.next (d :: acc)
          else expecting ["digit"] (final (failAt c.next))
        | [] => expecting ["digit"] (final (failAt c.next))
      else .ok (acc.reverse, c)

/-- Digits with underscores between them. -/
def group (isDigit : Char → Bool) (c : Cursor) : Step (List Char) :=
  match c.rest with
  | [] => failAt c
  | d :: _ =>
    if isDigit d then groupFrom isDigit (c.rest.length + 1) c.next [d] else failAt c

/-- A sign. -/
def sign (c : Cursor) : Option Char × Cursor :=
  if c.at? '+' then (some '+', c.next) else if c.at? '-' then (some '-', c.next) else (none, c)

/-- The number that some digits stand for. -/
def digitsValue (base : Nat) (ds : List Char) : Nat :=
  ds.foldl (fun n d => base * n + (Json.hexValue? d).getD 0) 0

/-! ## Decimal integers -/

/-- A decimal integer as sign and digits.  A leading zero stands alone. -/
structure DecimalText where
  negative : Bool
  digits : List Char

/-- The text of a decimal integer. -/
def decimalText (c : Cursor) : Step DecimalText :=
  let (s, c) := sign c
  let negative := s == some '-'
  let digits : Step (List Char) := if c.at? '0' then .ok (['0'], c.next) else group isDigit c
  reading "integer" (digits.map fun (ds, behind) => (⟨negative, ds⟩, behind))

/-- An integer, if it has no more than sixty-four bits. -/
def checkedInteger (start : Cursor) (n : Int) (behind : Cursor) : Step Int :=
  if Number.wordBound ≤ n then final (failFor start .integerTooLarge)
  else if n < -Number.wordBound then final (failFor start .integerTooSmall)
  else .ok (n, behind)

/-- An integer of a base behind its mark. -/
def markedInteger (what : String) (base : Nat) (isDigit : Char → Bool) (c : Cursor) : Step Int :=
  match reading what (final (group isDigit c.next.next)) with
  | .ok (ds, behind) => checkedInteger c (digitsValue base ds) behind
  | .error f => .error f

/-- An integer. -/
def integer (c : Cursor) : Step Int :=
  if (c.word? "0x").isSome then
    markedInteger "hexadecimal integer" 16 (fun d => (Json.hexValue? d).isSome) c
  else if (c.word? "0o").isSome then
    markedInteger "octal integer" 8 (fun d => '0' ≤ d && d ≤ '7') c
  else if (c.word? "0b").isSome then
    markedInteger "binary integer" 2 (fun d => d == '0' || d == '1') c
  else
    match decimalText c with
    | .ok (t, behind) =>
      let n : Int := digitsValue 10 t.digits
      checkedInteger c (if t.negative then -n else n) behind
    | .error f => .error f

/-! ## Fractional numbers -/

/-- The digits behind a point. -/
def fraction (c : Cursor) : Except Failure (List Char × Cursor) := do
  let (_, c) ← char '.' c
  expecting ["digit"] (final (group isDigit c))

/-- An exponent. -/
def exponent (c : Cursor) : Except Failure (Int × Cursor) := do
  if !(c.at? 'e' || c.at? 'E') then return ← failAt c
  let (s, c) := sign c.next
  let (ds, c) ← final (group isDigit c)
  let n : Int := digitsValue 10 ds
  return (if s == some '-' then -n else n, c)

/-- The greatest power of ten that matters to a double with digits before it. -/
def exponentLimit : Int := 400

/-- The double nearest to `digits * 10 ^ exponent`, for an exponent of any size. -/
def nearestDouble (digits : List Char) (exponent : Int) : Float :=
  let significant := digits.dropWhile fun d => d == '0'
  let magnitude : Int := significant.length + exponent
  if significant.isEmpty || magnitude < -exponentLimit then 0.0
  else if exponentLimit < magnitude then 1.0 / 0.0
  else Number.nearestDecimal (digitsValue 10 significant) exponent

/-- A fractional number in digits: an integer with a fraction, an exponent or both. -/
def decimalFloat (c : Cursor) : Except Failure (Float × Cursor) := do
  let (whole, behind) ← decimalText c
  let (decimals, power, behind) ← match exponent behind with
    | .ok (e, behind) => pure ([], e, behind)
    | .error f =>
      if f.final then throw f
      else do
        let (ds, behind) ← fraction behind
        let (e, behind) ← optional behind (exponent behind)
        pure (ds, e.getD 0, behind)
  let x := nearestDouble (whole.digits ++ decimals) (power - decimals.length)
  if x.isInf && !whole.negative then return ← final (failAt c)
  return (if whole.negative then -x else x, behind)

/-- A fractional number in words. -/
def specialFloat (c : Cursor) : Step Float :=
  let (s, c) := sign c
  let signed (x : Float) : Float := if s == some '-' then -x else x
  match c.word? "inf", c.word? "nan" with
  | some behind, _ => .ok (signed (1.0 / 0.0), behind)
  | none, some behind => .ok (signed (0.0 / 0.0), behind)
  | none, none => failAt c

/-- A fractional number. -/
def float (c : Cursor) : Step Float :=
  reading "floating-point number" (orElse (decimalFloat c) fun _ => specialFloat c)

end Toml

end GridLayout
