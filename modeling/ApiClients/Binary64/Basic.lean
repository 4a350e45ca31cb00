/-!
# Magnitudes in binary floating point

`Binary64` holds the finite magnitudes of the 64-bit binary format: a mantissa of at most 53 bits
times a power of two, each magnitude in exactly one way. Arithmetic is exact on fractions of natural
numbers and rounds once at its end, a half to the even neighbour. A sign is kept beside the magnitude
by those who need one.
-/

namespace ApiClients

/-- The magnitude `mantissa * 2 ^ exponent`. -/
structure Binary64 where
  mantissa : Nat
  exponent : Int
  canonical : (mantissa < Nat.pow 2 52 ∧ exponent = -1074) ∨
    (Nat.pow 2 52 ≤ mantissa ∧ mantissa < Nat.pow 2 53 ∧ -1074 ≤ exponent ∧ exponent ≤ 971)
deriving DecidableEq

namespace Binary64

/-- The magnitude zero. -/
def zero : Binary64 :=
  ⟨0, -1074, by decide⟩

instance : Inhabited Binary64 := ⟨zero⟩

/-- Whether the magnitude is zero. -/
def isZero (x : Binary64) : Bool :=
  x.mantissa == 0

/-- The magnitude with these parts, if they are canonical. -/
def ofParts? (mantissa : Nat) (exponent : Int) : Option Binary64 :=
  if h : (mantissa < Nat.pow 2 52 ∧ exponent = -1074) ∨
      (Nat.pow 2 52 ≤ mantissa ∧ mantissa < Nat.pow 2 53 ∧ -1074 ≤ exponent ∧ exponent ≤ 971) then
    some ⟨mantissa, exponent, h⟩
  else
    none

/-! ### Fractions -/

/-- The numerator of the magnitude as a fraction. -/
def num (x : Binary64) : Nat :=
  x.mantissa * Nat.pow 2 x.exponent.toNat

/-- The denominator of the magnitude as a fraction, a power of two. -/
def den (x : Binary64) : Nat :=
  Nat.pow 2 (-x.exponent).toNat

/-- The whole number nearest to `num / den`; a half goes to the even neighbour. -/
def roundQuotient (num den : Nat) : Nat :=
  let q := num / den
  let r := num % den
  if 2 * r < den then q else if den < 2 * r then q + 1 else q + q % 2

/-- The exponent at which the mantissa of `num / den` has 53 bits, or one more than that. -/
def exponentGuess (num den : Nat) : Int :=
  (num.log2 : Int) - den.log2 - 52

/-- The nearest whole number to `num / den` divided by `2 ^ e`. -/
def mantissaAt (num den : Nat) (e : Int) : Nat :=
  roundQuotient (num * Nat.pow 2 (-e).toNat) (den * Nat.pow 2 e.toNat)

/-- Whether `num / den` is below `2 ^ (52 + e)`. -/
def belowNormal (num den : Nat) (e : Int) : Bool :=
  num * Nat.pow 2 (-e).toNat < den * Nat.pow 2 e.toNat * Nat.pow 2 52

/-- The magnitude nearest to `num / den`, a half to the even neighbour; `none` beyond the range. -/
def ofQuotient? (num den : Nat) : Option Binary64 :=
  if num = 0 then
    some zero
  else
    let guess := exponentGuess num den
    let e := max (if belowNormal num den guess then guess - 1 else guess) (-1074)
    let m := mantissaAt num den e
    if m = Nat.pow 2 53 then ofParts? (Nat.pow 2 52) (e + 1) else ofParts? m e

/-- The magnitude nearest to a natural number. -/
def ofNat? (n : Nat) : Option Binary64 :=
  ofQuotient? n 1

/-- The product, rounded; `none` beyond the range. -/
def mul? (x y : Binary64) : Option Binary64 :=
  ofQuotient? (x.num * y.num) (x.den * y.den)

/-- The quotient, rounded; `none` beyond the range. -/
def div? (x y : Binary64) : Option Binary64 :=
  ofQuotient? (x.num * y.den) (x.den * y.num)

end Binary64

end ApiClients
