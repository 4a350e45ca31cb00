import ApiClients.Text.Segments
import ApiClients.Text.Uppercase

/-!
# Capitals

What the tables of capitals come to for a single character: its capital is a sequence, one character, or
the character itself (`capital_cases`). What is said of all capitals is then said of the entries of the
tables.

`capital_eq_cons` says of every capital what it begins with, and what may follow: it begins with a letter
that is its own capital, or with the character itself, and after that come alphanumeric characters and
some marks. The tables hold too many characters to go through them one by one for each of them. So the
code points that matter are gathered into sets, numbers with a bit for each code point, and two such sets
are compared at once.
-/

namespace ApiClients.Text

/-! ## Capitals in the tables -/

/-- The capital of a character stands in the one table or in the other, or it is the character. -/
theorem capital_cases (c : Char) :
    (∃ l, (c.toNat, l) ∈ capitalSequences ∧ capital c = l.map Char.ofNat) ∨
    (∃ r ∈ capitalRuns, r.contains c.toNat = true ∧
      capital c = [Char.ofNat (c.toNat + r.shift).toNat]) ∨
    capital c = [c] := by
  unfold capital
  split
  · next l found =>
    obtain ⟨x, y, eq, -⟩ := List.lookup_eq_some_iff.1 found
    exact .inl ⟨l, by simp [eq], rfl⟩
  · split
    · next r found =>
      have within : r.contains c.toNat = true := by simpa using List.find?_some found
      exact .inr (.inl ⟨r, List.mem_of_find?_eq_some found, within, rfl⟩)
    · exact .inr (.inr rfl)

theorem ne_nil_of_mem_capitalSequences : ∀ e ∈ capitalSequences, e.2 ≠ [] := by
  decide

/-- No character has an empty capital. -/
theorem capital_ne_nil (c : Char) : capital c ≠ [] := by
  rcases capital_cases c with ⟨l, mem, eq⟩ | ⟨r, -, -, eq⟩ | eq
  · rw [eq]
    simpa using ne_nil_of_mem_capitalSequences _ mem
  · simp [eq]
  · simp [eq]

/-- No code point but that of the colon stands for a colon. -/
theorem eq_of_ofNat_eq_colon {n : Nat} (h : Char.ofNat n = ':') : n = 58 := by
  by_cases valid : n.isValidChar
  · rw [Char.ofNat, dif_pos valid] at h
    exact congrArg Char.toNat h
  · rw [Char.ofNat, dif_neg valid] at h
    exact absurd h (by decide)

/-- A colon comes up in the capital of a colon only. -/
theorem eq_colon_of_mem_capital {c : Char} (h : ':' ∈ capital c) : c = ':' := by
  have sequences : ∀ e ∈ capitalSequences, ':' ∉ e.2.map Char.ofNat := by decide
  have beyond : ∀ r ∈ capitalRuns, (58 : Int) < r.first + r.shift := by decide +kernel
  rcases capital_cases c with ⟨l, mem, eq⟩ | ⟨r, mem, within, eq⟩ | eq
  · rw [eq] at h
    exact absurd h (sequences _ mem)
  · rw [eq, List.mem_singleton] at h
    have point : (c.toNat + r.shift).toNat = 58 := eq_of_ofNat_eq_colon h.symm
    have first_le : r.first ≤ c.toNat := by
      simp only [CapitalRun.contains, Bool.and_eq_true, decide_eq_true_eq] at within
      exact within.1.1
    have lt := beyond r mem
    omega
  · rw [eq, List.mem_singleton] at h
    exact h.symm

/-- The only capitals that the tables have for ASCII are those of the first run, and the library knows
them. -/
theorem capital_of_ascii {c : Char} (h : c.toNat < 128) : capital c = [c.toUpper] := by
  have sequences : ∀ e ∈ capitalSequences, 128 ≤ e.1 := by decide
  have later : ∀ r ∈ capitalRuns.tail, 128 ≤ r.first := by decide +kernel
  have no_sequence : capitalSequences.lookup c.toNat = none := by
    rw [List.lookup_eq_none_iff]
    intro e he
    have beyond := sequences e he
    simp only [bne_iff_ne]
    omega
  have no_later : capitalRuns.tail.find? (·.contains c.toNat) = none := by
    rw [List.find?_eq_none]
    intro r hr
    have beyond := later r hr
    simp only [CapitalRun.contains, Bool.and_eq_true, decide_eq_true_eq]
    omega
  have ascii : ∀ n < 128, (Char.ofNat n).toUpper =
      if CapitalRun.contains ⟨0x61, 0x7a, 1, -32⟩ n = true then Char.ofNat ((n : Int) + -32).toNat
      else Char.ofNat n := by
    decide
  have upper := ascii c.toNat h
  rw [Char.ofNat_toNat] at upper
  have runs : capitalRuns = ⟨0x61, 0x7a, 1, -32⟩ :: capitalRuns.tail := rfl
  unfold capital
  rw [no_sequence, runs, List.find?_cons, no_later, upper]
  cases CapitalRun.contains ⟨0x61, 0x7a, 1, -32⟩ c.toNat <;> rfl

/-! ## Sets of code points -/

/-- The union of sets. -/
def bitUnion (l : List Nat) : Nat :=
  l.foldr (· ||| ·) 0

/-- The set of the numbers in a list. -/
def bitSet (l : List Nat) : Nat :=
  bitUnion (l.map (1 <<< ·))

/-- The set of the code points in ranges. -/
def CharRanges.bits : CharRanges → Nat
  | [] => 0
  | (first, last) :: rest => (1 <<< (last + 1 - first) - 1 ||| bits rest >>> first) <<< first

theorem testBit_bitUnion {l : List Nat} {n : Nat} :
    (bitUnion l).testBit n = true ↔ ∃ s ∈ l, s.testBit n = true := by
  induction l with
  | nil => simp [bitUnion]
  | cons s l ih =>
    have first : bitUnion (s :: l) = s ||| bitUnion l := rfl
    rw [first, Nat.testBit_or, Bool.or_eq_true, ih]
    simp

theorem testBit_bitSet {l : List Nat} {n : Nat} : (bitSet l).testBit n = true ↔ n ∈ l := by
  rw [bitSet, testBit_bitUnion]
  constructor
  · rintro ⟨s, hs, bit⟩
    obtain ⟨m, hm, rfl⟩ := List.mem_map.1 hs
    rw [Nat.one_shiftLeft, Nat.testBit_two_pow, decide_eq_true_eq] at bit
    exact bit ▸ hm
  · intro hn
    exact ⟨_, List.mem_map_of_mem hn, by rw [Nat.one_shiftLeft, Nat.testBit_two_pow_self]⟩

theorem CharRanges.testBit_bits (ranges : CharRanges) (n : Nat) :
    ranges.bits.testBit n = ranges.covers n := by
  induction ranges with
  | nil => simp [bits, covers]
  | cons e rest ih =>
    obtain ⟨first, last⟩ := e
    rw [bits, covers, Nat.testBit_shiftLeft, Nat.testBit_or, Nat.testBit_shiftRight]
    by_cases h : first ≤ n
    · have place : first + (n - first) = n := by omega
      have within : n - first < last + 1 - first ↔ n ≤ last := by omega
      rw [place, ih, Nat.one_shiftLeft, Nat.testBit_two_pow_sub_one]
      simp [within]
    · simp [h]

/-- The ranges hold no surrogates, and nothing beyond the last character. -/
def CharRanges.Valid (ranges : CharRanges) : Prop :=
  ∀ e ∈ ranges, e.2 < 0xd800 ∨ 0xdfff < e.1 ∧ e.2 < 0x110000

instance : DecidablePred CharRanges.Valid := fun ranges =>
  inferInstanceAs (Decidable (∀ e ∈ ranges, e.2 < 0xd800 ∨ 0xdfff < e.1 ∧ e.2 < 0x110000))

theorem CharRanges.Valid.isValidChar {ranges : CharRanges} {n : Nat} (valid : ranges.Valid)
    (h : ranges.covers n = true) : n.isValidChar := by
  induction ranges with
  | nil => exact nomatch h
  | cons e rest ih =>
    obtain ⟨first, last⟩ := e
    obtain ⟨here, later⟩ := List.forall_mem_cons.1 valid
    simp only [covers, Bool.and_eq_true, Bool.or_eq_true, decide_eq_true_eq] at h
    rcases h with ⟨first_le, le_last | h⟩
    · unfold Nat.isValidChar
      omega
    · exact ih later h

/-! ## Capitals of capitals -/

/-- The code points of a run. -/
def CapitalRun.points (r : CapitalRun) : List Nat :=
  List.range' r.first ((r.last - r.first) / r.step + 1) r.step

/-- The code points of the capitals of a run. -/
def CapitalRun.capitals (r : CapitalRun) : List Nat :=
  r.points.map fun n : Nat => (n + r.shift).toNat

theorem CapitalRun.mem_points {r : CapitalRun} {n : Nat} (h : r.contains n = true) :
    n ∈ r.points := by
  simp only [contains, Bool.and_eq_true, decide_eq_true_eq, beq_iff_eq] at h
  obtain ⟨⟨first_le, le_last⟩, divides⟩ := h
  have steps : (n - r.first) / r.step ≤ (r.last - r.first) / r.step :=
    Nat.div_le_div_right (by omega)
  have place : r.step * ((n - r.first) / r.step) = n - r.first :=
    Nat.mul_div_cancel' (Nat.dvd_of_mod_eq_zero divides)
  rw [points, List.mem_range']
  exact ⟨(n - r.first) / r.step, by omega, by omega⟩

/-- The code points for which the tables have a capital. -/
def withCapital : Nat :=
  bitSet (capitalSequences.map Prod.fst) ||| bitUnion (capitalRuns.map fun r => bitSet r.points)

/-- The code points that the capitals in the tables begin with. -/
def capitalHeads : Nat :=
  bitSet (capitalSequences.filterMap (·.2.head?)) |||
    bitUnion (capitalRuns.map fun r => bitSet r.capitals)

/-- The marks that follow a letter in the capitals of some characters. -/
def capitalMarks : List Char :=
  ['\u0300', '\u0301', '\u0308', '\u030a', '\u030c', '\u0313', '\u0331', '\u0342']

theorem capital_eq_self {c : Char} (h : withCapital.testBit c.toNat = false) : capital c = [c] := by
  rw [withCapital, Nat.testBit_or, Bool.or_eq_false_iff] at h
  obtain ⟨no_sequence, no_run⟩ := h
  rcases capital_cases c with ⟨l, mem, -⟩ | ⟨r, mem, within, -⟩ | eq
  · rw [Bool.eq_false_iff, ne_eq, testBit_bitSet] at no_sequence
    exact absurd (List.mem_map_of_mem mem) no_sequence
  · rw [Bool.eq_false_iff, ne_eq, testBit_bitUnion] at no_run
    exact absurd ⟨_, List.mem_map_of_mem mem, testBit_bitSet.2 (r.mem_points within)⟩ no_run
  · exact eq

theorem capitalHeads_alphabetic : capitalHeads &&& alphabeticRanges.bits = capitalHeads := by
  decide +kernel

theorem capitalHeads_without_capital : capitalHeads &&& withCapital = 0 := by
  decide +kernel

theorem valid_alphabeticRanges : alphabeticRanges.Valid := by
  decide +kernel

/-- What capitals begin with are letters, and these have no other capital. -/
theorem capital_of_head {n : Nat} (h : capitalHeads.testBit n = true) :
    isAlphabetic (Char.ofNat n) = true ∧ capital (Char.ofNat n) = [Char.ofNat n] := by
  have covered : alphabeticRanges.covers n = true := by
    rw [← capitalHeads_alphabetic, Nat.testBit_and, Bool.and_eq_true] at h
    rw [← CharRanges.testBit_bits]
    exact h.2
  have point : (Char.ofNat n).toNat = n := by
    rw [Char.ofNat, dif_pos (valid_alphabeticRanges.isValidChar covered)]
    rfl
  refine ⟨by rw [isAlphabetic, point, covered], capital_eq_self ?_⟩
  have apart : (capitalHeads &&& withCapital).testBit n = false := by
    rw [capitalHeads_without_capital, Nat.zero_testBit]
  rwa [Nat.testBit_and, h, Bool.true_and, ← point] at apart

/-- The capital of a character begins with the character itself, or with a letter, and this is its own
capital. Only some marks in it are not alphanumeric. -/
theorem capital_eq_cons (c : Char) :
    ∃ d rest, capital c = d :: rest ∧ capital d = [d] ∧ (d = c ∨ isAlphabetic d = true) ∧
      ∀ e ∈ rest, isAlphanumeric e = true ∨ e ∈ capitalMarks := by
  have later : ∀ e ∈ capitalSequences, ∀ n ∈ e.2.tail,
      isAlphanumeric (Char.ofNat n) = true ∨ Char.ofNat n ∈ capitalMarks := by
    decide +kernel
  rcases capital_cases c with ⟨l, mem, eq⟩ | ⟨r, mem, within, eq⟩ | eq
  · obtain ⟨n, rest, rfl⟩ := List.exists_cons_of_ne_nil (ne_nil_of_mem_capitalSequences _ mem)
    have head : capitalHeads.testBit n = true := by
      rw [capitalHeads, Nat.testBit_or, Bool.or_eq_true, testBit_bitSet]
      exact .inl (List.mem_filterMap.2 ⟨_, mem, rfl⟩)
    obtain ⟨letter, fixed⟩ := capital_of_head head
    refine ⟨Char.ofNat n, rest.map Char.ofNat, eq, fixed, .inr letter, fun e he => ?_⟩
    obtain ⟨m, hm, rfl⟩ := List.mem_map.1 he
    exact later _ mem m hm
  · have head : capitalHeads.testBit (c.toNat + r.shift).toNat = true := by
      rw [capitalHeads, Nat.testBit_or, Bool.or_eq_true, testBit_bitUnion]
      exact .inr ⟨_, List.mem_map_of_mem mem,
        testBit_bitSet.2 (List.mem_map.2 ⟨_, r.mem_points within, rfl⟩)⟩
    obtain ⟨letter, fixed⟩ := capital_of_head head
    exact ⟨_, [], eq, fixed, .inr letter, nofun⟩
  · exact ⟨c, [], eq, eq, .inl rfl, nofun⟩

end ApiClients.Text
