import ApiClients.Json.Token
import Mathlib.Data.List.TakeDrop
import Mathlib.Data.List.TakeWhile
import Mathlib.Tactic.IntervalCases
import Mathlib.Tactic.SplitIfs

/-!
# The text of an integer

An integer is written with decimal digits, without zeros in front, and with a minus sign if it is
negative. Read as a word of JSON text it is the same integer again (`ofChars?_text`): the digits are
those of a numeral without fraction and exponent, and they spell the number that they were made of.
-/

namespace ApiClients.Number

/-! ## Digits -/

theorem isDigit_of_mem_toDigits {n : Nat} {c : Char} (h : c ∈ Nat.toDigits 10 n) :
    c.isDigit = true :=
  Nat.isDigit_of_mem_toDigits (by decide) (by decide) h

/-- No character is left when digits are split off. -/
theorem span_toDigits (n : Nat) :
    (Nat.toDigits 10 n).span Char.isDigit = (Nat.toDigits 10 n, []) := by
  have all : ∀ c ∈ Nat.toDigits 10 n, c.isDigit = true := fun _ => isDigit_of_mem_toDigits
  rw [List.span_eq_takeWhile_dropWhile, List.takeWhile_eq_self_iff.2 all,
    List.dropWhile_eq_nil_iff.2 all]

theorem ofDigits_toDigits (n : Nat) : ofDigits (Nat.toDigits 10 n) = n := by
  show Nat.ofDigitChars 10 (Nat.toDigits 10 n) 0 = n
  exact Nat.ofDigitChars_ten_toDigits

/-- The digits of a positive number do not begin with a zero. -/
theorem exists_toDigits_eq_cons {n : Nat} (hn : 0 < n) :
    ∃ c rest, Nat.toDigits 10 n = c :: rest ∧ c ≠ '0' := by
  induction n using Nat.strongRecOn with
  | ind n ih =>
    rw [Nat.toDigits_eq_if (by decide)]
    split_ifs with h
    · refine ⟨n.digitChar, [], rfl, ?_⟩
      interval_cases n <;> decide
    · obtain ⟨c, rest, eq, ne⟩ := ih (n / 10) (by omega) (by omega)
      exact ⟨c, rest ++ [(n % 10).digitChar], by rw [eq]; rfl, ne⟩

theorem isWhole_toDigits (n : Nat) : isWhole (Nat.toDigits 10 n) = true := by
  rcases Nat.eq_zero_or_pos n with rfl | hn
  · rfl
  · obtain ⟨c, rest, eq, ne⟩ := exists_toDigits_eq_cons hn
    rw [eq]
    unfold isWhole
    split <;> simp_all

/-! ## Numerals -/

/-- Digits, with a minus sign in front if the number is negative. -/
def signed (negative : Bool) (n : Nat) : List Char :=
  if negative then '-' :: Nat.toDigits 10 n else Nat.toDigits 10 n

theorem numeral_signed (negative : Bool) (n : Nat) :
    Numeral.ofChars? (signed negative n) =
      some { negative, whole := Nat.toDigits 10 n, fraction := none, exponent := none } := by
  have no_sign : ∀ r, Nat.toDigits 10 n ≠ '-' :: r := by
    intro r eq
    have digit : ('-' : Char).isDigit = true := isDigit_of_mem_toDigits (n := n) (by simp [eq])
    exact absurd digit (by decide)
  unfold signed Numeral.ofChars?
  cases negative with
  | true => simp only [if_true, span_toDigits, isWhole_toDigits]; rfl
  | false =>
    simp only [Bool.false_eq_true, if_false, span_toDigits, isWhole_toDigits]
    rfl

theorem ofInt?_eq {i : Int} (h : -Int.pow 2 63 ≤ i ∧ i < Int.pow 2 64) :
    ofInt? i = some (.integer i h) :=
  dif_pos h

/-- The sign and the digits of an integer. -/
theorem toList_text {i : Int} (h : -Int.pow 2 63 ≤ i ∧ i < Int.pow 2 64) :
    (text (.integer i h)).toList = signed (decide (i < 0)) i.natAbs := by
  show (toString i).toList = _
  rw [Int.toString_eq_repr, Int.repr_eq_if]
  unfold signed
  by_cases hi : 0 ≤ i
  · have value : i.toNat = i.natAbs := by omega
    rw [if_pos hi, if_neg (by simpa using hi), Nat.toList_repr, value]
  · have value : (-i).toNat = i.natAbs := by omega
    rw [if_neg hi, if_pos (by simpa using hi), String.toList_append, Nat.toList_repr, value]
    rfl

/-- The text of an integer denotes this integer. -/
theorem ofChars?_text {i : Int} (h : -Int.pow 2 63 ≤ i ∧ i < Int.pow 2 64) :
    ofChars? (text (.integer i h)).toList = some (.integer i h) := by
  rw [toList_text, ofChars?, numeral_signed, Option.bind_some, ofNumeral?, Numeral.integer?]
  by_cases hi : i < 0
  · have pos : i.natAbs ≠ 0 := by omega
    have value : -(i.natAbs : Int) = i := by omega
    simp only [hi, decide_true, if_true, ofDigits_toDigits, if_neg pos, value, ofInt?_eq h]
  · have value : (i.natAbs : Int) = i := by omega
    simp only [hi, decide_false, Bool.false_eq_true, if_false, ofDigits_toDigits, value, ofInt?_eq h]

end ApiClients.Number
