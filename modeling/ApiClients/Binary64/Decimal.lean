import ApiClients.Binary64.Basic

/-!
# Decimal notation of magnitudes

From digits to a magnitude: the significand is rounded, then scaled by powers of ten that are
themselves rounded, with a rounding after each step. From a magnitude to digits: the fewest decimal
digits that lie nearer to it than to any other magnitude.
-/

namespace ApiClients.Binary64

/-! ### Reading -/

/-- The greatest power of ten that is a magnitude has this exponent. -/
def maxPowerOfTen : Nat := 308

/-- The magnitude nearest to a power of ten; zero beyond the range. -/
def powerOfTen (n : Nat) : Binary64 :=
  (ofNat? (Nat.pow 10 n)).getD zero

/-- Divides by `10 ^ n`, in steps that divide by a power of ten within the range. -/
def scaleDown (x : Binary64) (n : Nat) : Option Binary64 :=
  if n ≤ maxPowerOfTen then
    x.div? (powerOfTen n)
  else if x.isZero then
    some x
  else
    (x.div? (powerOfTen maxPowerOfTen)).bind fun y => y.scaleDown (n - maxPowerOfTen)
termination_by n
decreasing_by simp only [maxPowerOfTen] at *; omega

/-- Multiplies by `10 ^ n`; `none` beyond the range. -/
def scaleUp? (x : Binary64) (n : Nat) : Option Binary64 :=
  if n ≤ maxPowerOfTen then
    x.mul? (powerOfTen n)
  else if x.isZero then
    some x
  else
    none

/-- The magnitude read from `significand * 10 ^ exponent`; `none` beyond the range. -/
def ofDecimal? (significand : Nat) (exponent : Int) : Option Binary64 :=
  (ofNat? significand).bind fun x =>
    if 0 ≤ exponent then x.scaleUp? exponent.toNat else x.scaleDown (-exponent).toNat

/-! ### Writing -/

/-- The number `digits * 10 ^ exponent`. -/
structure Decimal where
  digits : Nat
  exponent : Int
deriving DecidableEq

/-- The number of decimal digits of a positive number. -/
def decimalLength (n : Nat) : Nat :=
  (Nat.toDigits 10 n).length

/-- The exponent of the leading digit of a positive fraction in decimal notation. -/
def leadingExponent (num den : Nat) : Int :=
  if den ≤ num then
    (decimalLength (num / den) : Int) - 1
  else
    -(decimalLength ((den + num - 1) / num - 1) : Int)

/-- Whether the fraction `num / den` rounds to `x`: whether it lies between the midpoints to the
neighbours of `x`, the midpoints themselves included if the mantissa is even. -/
def roundsTo (x : Binary64) (num den : Nat) : Bool :=
  let quarter := x.den * 4
  -- below a power of two the neighbour is only half as far away
  let below := if x.mantissa = Nat.pow 2 52 ∧ -1074 < x.exponent then 1 else 2
  let unit := Nat.pow 2 x.exponent.toNat
  let low := (4 * x.mantissa - below) * unit * den
  let high := (4 * x.mantissa + 2) * unit * den
  let here := num * quarter
  if x.mantissa % 2 = 0 then low ≤ here && here ≤ high else low < here && here < high

/-- The whole number `n` such that `n * 10 ^ exponent` rounds to `x`, if the grid of such numbers has
one; of two the nearer, and of two equally near the even one. -/
def onGrid? (x : Binary64) (exponent : Int) : Option Nat :=
  let up := Nat.pow 10 exponent.toNat
  let down := Nat.pow 10 (-exponent).toNat
  let num := x.num * down
  let den := x.den * up
  let n := num / den
  match x.roundsTo (n * up) down, x.roundsTo ((n + 1) * up) down with
  | true, true => some (roundQuotient num den)
  | true, false => some n
  | false, true => some (n + 1)
  | false, false => none

/-- The first of `count` grids, each ten times finer than the one before, that has a number which
rounds to `x`. -/
def firstGrid (x : Binary64) (exponent : Int) : Nat → Option Decimal
  | 0 => none
  | count + 1 =>
    match x.onGrid? exponent with
    | some n => some ⟨n, exponent⟩
    | none => x.firstGrid (exponent - 1) count

/-- Moves zeros at the end of the digits into the exponent. -/
def Decimal.trim (d : Decimal) : Decimal :=
  if 0 < d.digits ∧ d.digits % 10 = 0 then trim ⟨d.digits / 10, d.exponent + 1⟩ else d
termination_by d.digits

/-- The fewest digits that round to a positive magnitude; seventeen always suffice. -/
def shortest (x : Binary64) : Decimal :=
  match x.firstGrid (leadingExponent x.num x.den) 17 with
  | some d => d.trim
  | none => ⟨x.mantissa, 0⟩

end ApiClients.Binary64
