import ApiClients.Binary64.Decimal

/-!
# JSON numbers

A number is an integer of 64 bits, signed or unsigned, or a floating-point number. Which of the two
a numeral denotes depends on its form: a fraction or an exponent makes a floating-point number even
of `1.0`, and so do an integer beyond 64 bits and the numeral `-0`.
-/

namespace ApiClients

/-- A JSON number. -/
inductive Number where
  | integer (value : Int) (bounded : -Int.pow 2 63 ≤ value ∧ value < Int.pow 2 64)
  | float (negative : Bool) (magnitude : Binary64)
deriving DecidableEq

namespace Number

/-- The integer as a number, if it fits into 64 bits. -/
def ofInt? (n : Int) : Option Number :=
  if h : -Int.pow 2 63 ≤ n ∧ n < Int.pow 2 64 then some (.integer n h) else none

/-- Whether a number is an integer. -/
def isInteger : Number → Bool
  | .integer .. => true
  | .float .. => false

/-- Equality of numbers: an integer never equals a floating-point number, and the two zeros of the
floating-point numbers are equal. -/
def equal : Number → Number → Bool
  | .integer m _, .integer n _ => m == n
  | .float s x, .float t y => (s == t && x == y) || (x.isZero && y.isZero)
  | _, _ => false

/-! ### Numerals -/

/-- The parts of a numeral. -/
structure Numeral where
  negative : Bool
  whole : List Char
  fraction : Option (List Char)
  exponent : Option Int

/-- The value of a decimal digit. -/
def digitValue (c : Char) : Nat :=
  c.toNat - '0'.toNat

/-- The number that decimal digits spell. -/
def ofDigits (digits : List Char) : Nat :=
  digits.foldl (fun n c => 10 * n + digitValue c) 0

/-- The digits of a whole number: at least one, and no zero before another digit. -/
def isWhole : List Char → Bool
  | [] => false
  | ['0'] => true
  | c :: _ => c != '0'

/-- The exponent that follows the letter `e`. -/
def exponent? (s : List Char) : Option Int :=
  let (negative, digits) :=
    match s with
    | '-' :: r => (true, r)
    | '+' :: r => (false, r)
    | r => (false, r)
  if !digits.isEmpty && digits.all Char.isDigit then
    some (if negative then -(ofDigits digits : Int) else ofDigits digits)
  else
    none

/-- Reads a numeral. -/
def Numeral.ofChars? (s : List Char) : Option Numeral := do
  let (negative, s) :=
    match s with
    | '-' :: r => (true, r)
    | r => (false, r)
  let (whole, s) := s.span Char.isDigit
  if !isWhole whole then none
  let (fraction, s) ←
    match s with
    | '.' :: r =>
      let (digits, r) := r.span Char.isDigit
      if digits.isEmpty then none else some (some digits, r)
    | r => some (none, r)
  let exponent ←
    match s with
    | [] => some none
    | c :: r => if c = 'e' ∨ c = 'E' then (exponent? r).map some else none
  return { negative, whole, fraction, exponent }

/-- Appends digits to a significand as long as it fits into 64 bits; the digits left over. -/
def absorb (significand : Nat) : List Char → Nat × List Char
  | [] => (significand, [])
  | c :: digits =>
    let next := 10 * significand + digitValue c
    if next < Nat.pow 2 64 then absorb next digits else (significand, c :: digits)

/-- The magnitude of a numeral as a floating-point number; `none` beyond the range. Digits beyond
64 bits of significand count only by their place. -/
def Numeral.magnitude? (n : Numeral) : Option Binary64 :=
  let fraction := n.fraction.getD []
  let (significand, wholeRest) := absorb 0 n.whole
  let (significand, fractionRest) := absorb significand fraction
  let places : Int := (wholeRest.length : Int) - (fraction.length - fractionRest.length : Nat)
  Binary64.ofDecimal? significand (places + n.exponent.getD 0)

/-- The integer that a numeral denotes: without fraction and exponent, not `-0`, and within
64 bits. -/
def Numeral.integer? (n : Numeral) : Option Number :=
  match n.fraction, n.exponent with
  | none, none =>
    let value := ofDigits n.whole
    if n.negative then
      if value = 0 then none else ofInt? (-value)
    else
      ofInt? value
  | _, _ => none

/-- The number that a numeral denotes; `none` if it is beyond all numbers. -/
def ofNumeral? (n : Numeral) : Option Number :=
  match n.integer? with
  | some i => some i
  | none => n.magnitude?.map (.float n.negative)

/-- Reads a number. -/
def ofChars? (s : List Char) : Option Number :=
  (Numeral.ofChars? s).bind ofNumeral?

/-! ### Text -/

/-- How decimal notation is laid out. -/
structure Layout where
  /-- The least exponent of the leading digit that is written without exponent. -/
  leastPlain : Int
  /-- The least exponent above those that are written without exponent. -/
  leastScientific : Int

/-- Numbers of at most sixteen digits before the point and four zeros after it are written plainly,
all others with an exponent. -/
def jsonLayout : Layout :=
  ⟨-5, 16⟩

/-- Digits with a point after the first `n`, and a zero where a side would be empty. -/
def withPoint (digits : String) (n : Nat) : String :=
  let before := (digits.take n).toString
  let after := (digits.drop n).toString
  before ++ "." ++ (if after.isEmpty then "0" else after)

/-- A positive decimal number written out; with an exponent, its sign is always written. -/
def Layout.write (l : Layout) (d : Binary64.Decimal) : String :=
  let digits := toString d.digits
  let leading := d.exponent + digits.length - 1
  if l.leastPlain ≤ leading ∧ leading < l.leastScientific then
    if 0 ≤ d.exponent then
      digits ++ String.ofList (List.replicate d.exponent.toNat '0') ++ ".0"
    else if 0 ≤ leading then
      withPoint digits (leading.toNat + 1)
    else
      "0." ++ String.ofList (List.replicate (-leading - 1).toNat '0') ++ digits
  else
    (if digits.length = 1 then digits else withPoint digits 1) ++
      "e" ++ (if leading < 0 then "-" else "+") ++ toString leading.natAbs

/-- The text of a magnitude. -/
def magnitudeText (x : Binary64) : String :=
  if x.isZero then "0.0" else jsonLayout.write x.shortest

/-- The text of a number. -/
def text : Number → String
  | .integer n _ => toString n
  | .float negative x => (if negative then "-" else "") ++ magnitudeText x

end Number

end ApiClients
