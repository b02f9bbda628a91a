/-!
# Binary floating point and its shortest decimal text

A number of the format has 53 binary digits and an exponent of at least -1074. A decimal is read by
rounding it to the nearest such number, with a tie going to the even one. A number is written with
the fewest decimal digits that read back to it, the nearest ones if there is a choice, and always
positionally.
-/

namespace LintServer

/-- A floating point number. -/
inductive Binary64 where
  | nan
  | infinite (negative : Bool)
  /-- The number `mantissa * 2 ^ exponent`. -/
  | finite (negative : Bool) (mantissa : Nat) (exponent : Int)
deriving Repr, DecidableEq, Inhabited

namespace Binary64

/-- The quotient of two numbers rounded to the nearest integer, a tie to the even one. -/
def roundDiv (num den : Nat) : Nat :=
  let q := num / den
  let r := num % den
  if 2 * r < den then q
  else if den < 2 * r then q + 1
  else if q % 2 = 0 then q else q + 1

/-- The quotient `num / den` in units of `2 ^ e`, rounded. -/
def inUnits (num den : Nat) (e : Int) : Nat :=
  if e < 0 then roundDiv (num * Nat.pow 2 e.natAbs) den else roundDiv num (den * Nat.pow 2 e.toNat)

/-- The least exponent. -/
def minExponent : Int := -1074

/-- The mantissa and exponent of the number nearest to `num / den`; the mantissa has 53 digits unless
the exponent is the least one. -/
def nearest (num den : Nat) : Nat × Int :=
  if num = 0 then (0, minExponent)
  else
    -- The quotient lies between `2 ^ (low - 1)` and `2 ^ (low + 1)`.
    let low : Int := (Nat.log2 num : Int) - (Nat.log2 den : Int)
    let guess := max (low - 53) minExponent
    let units := inUnits num den guess
    let e := if units < Nat.pow 2 53 then guess else max (guess + 1) minExponent
    let m := inUnits num den e
    if m < Nat.pow 2 53 then (m, e) else (Nat.pow 2 52, e + 1)

/-- The number nearest to `digits * 10 ^ exponent`. -/
def ofDecimal (negative : Bool) (digits : Nat) (exponent : Int) : Binary64 :=
  if digits = 0 then .finite negative 0 minExponent
  else
    let magnitude := (Nat.log2 digits : Int) * 3 / 10 + exponent
    if 400 < magnitude then .infinite negative
    else if magnitude < -800 then .finite negative 0 minExponent
    else
      let (m, e) :=
        if exponent < 0 then nearest digits (Nat.pow 10 exponent.natAbs)
        else nearest (digits * Nat.pow 10 exponent.toNat) 1
      if 971 < e then .infinite negative else .finite negative m e

/-- A decimal with the given number of digits whose nearest number is `m * 2 ^ e`: the digits and the
power of ten of the last one. Of the two neighbours of the number on the grid of that many digits,
the nearer one that reads back is taken. `top` is the power of ten just above the number. -/
def digitsOf? (m : Nat) (e : Int) (top : Int) (count : Nat) : Option (Nat × Int) :=
  let unit : Int := top - count
  -- The number is `num / den` in units of the last digit.
  let num := m * Nat.pow 2 e.toNat * Nat.pow 10 (-unit).toNat
  let den := Nat.pow 2 (-e).toNat * Nat.pow 10 unit.toNat
  let low := num / den
  let readsBack (d : Nat) : Bool := ofDecimal false d unit == .finite false m e
  let lowHit := readsBack low
  let highHit := readsBack (low + 1)
  let nearerLow := 2 * (num % den) ≤ den
  if lowHit && (nearerLow || !highHit) then some (low, unit)
  else if highHit then some (low + 1, unit)
  else none

/-- The first count of digits, from `count` on, that reads back. -/
def shortestFrom (m : Nat) (e : Int) (top : Int) : (tries count : Nat) → Nat × Int
  | 0, _ => (m * Nat.pow 2 e.toNat, 0)
  | tries + 1, count =>
    match digitsOf? m e top count with
    | some r => r
    | none => shortestFrom m e top tries (count + 1)

/-- The number of decimal digits of the integer part of `num / den`, or minus the number of zeros
that follow the point. The first argument bounds the search. -/
def decimalTop : (fuel : Nat) → (num den : Nat) → Int
  | 0, _, _ => 0
  | n + 1, num, den =>
    if den ≤ num then decimalTop n num (den * 10) + 1
    else if num * 10 < den then decimalTop n (num * 10) den - 1
    else 0

/-- Moves zeros at the end of the digits into the power of ten. -/
def dropZeros : (fuel digits : Nat) → Int → Nat × Int
  | 0, digits, power => (digits, power)
  | n + 1, digits, power =>
    if digits % 10 = 0 then dropZeros n (digits / 10) (power + 1) else (digits, power)

/-- The fewest digits of `m * 2 ^ e`, and the power of ten of the last one. -/
def shortest (m : Nat) (e : Int) : Nat × Int :=
  let top := decimalTop 400 (m * Nat.pow 2 e.toNat) (Nat.pow 2 (-e).toNat)
  let (digits, power) := shortestFrom m e top 17 1
  dropZeros 17 digits power

/-- Digits before and after a point that stands `scale` digits before the end. -/
def positional (digits : List Char) (scale : Nat) : List Char :=
  let padded := List.replicate (scale + 1 - digits.length) '0' ++ digits
  let whole := padded.take (padded.length - scale)
  let part := padded.drop (padded.length - scale)
  whole ++ '.' :: part

/-- The text of a number, always with a point. -/
def text : Binary64 → String
  | .nan => "NaN"
  | .infinite negative => if negative then "-inf" else "inf"
  | .finite negative m e =>
    let body :=
      if m = 0 then ['0', '.', '0']
      else
        let (digits, power) := shortest m e
        let ds := Nat.toDigits 10 digits
        if 0 ≤ power then ds ++ List.replicate power.toNat '0' ++ ['.', '0']
        else positional ds power.natAbs
    String.ofList (if negative then '-' :: body else body)

end Binary64

end LintServer
