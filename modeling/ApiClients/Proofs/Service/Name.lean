import ApiClients.Service.Name
import Mathlib.Logic.Basic
import Mathlib.Tactic.SplitIfs

/-!
# How names of services are spelled

The texts that are accepted as names are those that are spelled as names (`ServiceName.Spelled`), with
letters and digits of ASCII as ranges of characters, and every other text has one fault
(`ServiceName.Faulty`). A name is the text that it was made of, and a refusal shows it too.
-/

namespace ApiClients.ServiceName

/-- A letter of ASCII. -/
def IsLetter (c : Char) : Prop :=
  ('A' ≤ c ∧ c ≤ 'Z') ∨ ('a' ≤ c ∧ c ≤ 'z')

/-- A digit of ASCII. -/
def IsDigit (c : Char) : Prop :=
  '0' ≤ c ∧ c ≤ '9'

/-- A letter, followed by letters, digits and underscores. -/
def Spelled (s : String) : Prop :=
  ∃ c rest, s.toList = c :: rest ∧ IsLetter c ∧ ∀ d ∈ rest, IsLetter d ∨ IsDigit d ∨ d = '_'

/-- What is wrong with a text that is no name. The first character is judged before the others. -/
inductive Faulty : String → Fault → Prop where
  | empty : Faulty "" .empty
  | start {c : Char} {rest : List Char} (no_letter : ¬ IsLetter c) :
    Faulty (String.ofList (c :: rest)) .start
  | character {c d : Char} {rest : List Char} (letter : IsLetter c) (here : d ∈ rest)
    (other : ¬ (IsLetter d ∨ IsDigit d ∨ d = '_')) : Faulty (String.ofList (c :: rest)) .character

theorem isAlpha_iff {c : Char} : c.isAlpha = true ↔ IsLetter c := by
  have upper : c.isUpper = true ↔ 'A' ≤ c ∧ c ≤ 'Z' := decide_eq_true_iff
  have lower : c.isLower = true ↔ 'a' ≤ c ∧ c ≤ 'z' :=
    Bool.and_eq_true_iff.trans (and_congr decide_eq_true_iff decide_eq_true_iff)
  exact Bool.or_eq_true_iff.trans (or_congr upper lower)

theorem IsLetter.toNat_lt {c : Char} (h : IsLetter c) : c.toNat < 128 := by
  rcases h with ⟨-, le⟩ | ⟨-, le⟩
  · have bound : c.toNat ≤ 'Z'.toNat := le
    exact Nat.lt_of_le_of_lt bound (by decide)
  · have bound : c.toNat ≤ 'z'.toNat := le
    exact Nat.lt_of_le_of_lt bound (by decide)

theorem IsLetter.toUpper {c : Char} (h : IsLetter c) : IsLetter c.toUpper := by
  have ascii : ∀ n < 128, (Char.ofNat n).isAlpha = true → (Char.ofNat n).toUpper.isAlpha = true := by
    decide
  have capital := ascii c.toNat h.toNat_lt
  rw [Char.ofNat_toNat, isAlpha_iff, isAlpha_iff] at capital
  exact capital h

theorem isNameChar_iff {c : Char} :
    isNameChar c = true ↔ IsLetter c ∨ IsDigit c ∨ c = '_' := by
  have digit : c.isDigit = true ↔ IsDigit c := by
    simp only [Char.isDigit, Bool.and_eq_true, decide_eq_true_eq]
    rfl
  rw [isNameChar, Char.isAlphanum, Bool.or_eq_true, Bool.or_eq_true, isAlpha_iff, digit, beq_iff_eq,
    or_assoc]

theorem spelled_iff {s : String} :
    Spelled s ↔ ∃ c rest, s.toList = c :: rest ∧ c.isAlpha = true ∧ rest.all isNameChar = true := by
  have chars (rest : List Char) :
      rest.all isNameChar = true ↔ ∀ d ∈ rest, IsLetter d ∨ IsDigit d ∨ d = '_' := by
    rw [List.all_eq_true]
    exact forall₂_congr fun d _ => isNameChar_iff
  simp only [Spelled, isAlpha_iff, chars]

/-- The texts without a fault are those that are spelled as names. -/
theorem fault?_eq_none_iff {s : String} : fault? s = none ↔ Spelled s := by
  rw [spelled_iff, fault?]
  cases s.toList with
  | nil => simp
  | cons c rest =>
    have here : (∃ d tail, c :: rest = d :: tail ∧ d.isAlpha = true ∧ tail.all isNameChar = true) ↔
        c.isAlpha = true ∧ rest.all isNameChar = true := by
      simp only [List.cons.injEq, and_assoc, exists_and_left, exists_eq_left']
    rw [here]
    dsimp only
    cases c.isAlpha <;> cases rest.all isNameChar <;> simp

/-- The fault that is found is the one that the text has. -/
theorem fault?_eq_some_iff {s : String} {f : Fault} : fault? s = some f ↔ Faulty s f := by
  constructor
  · intro h
    rw [← String.ofList_toList (s := s)]
    unfold fault? at h
    split at h
    · next chars =>
      cases h
      rw [chars]
      exact .empty
    · next c rest chars =>
      rw [chars]
      split_ifs at h with no_letter other <;> cases h
      · exact .start (by simpa [← isAlpha_iff] using no_letter)
      · have letter : IsLetter c := isAlpha_iff.1 (by simpa using no_letter)
        obtain ⟨d, here, bad⟩ : ∃ d ∈ rest, ¬ isNameChar d = true := by simpa using other
        exact .character letter here fun h => bad (isNameChar_iff.2 h)
  · intro h
    unfold fault?
    cases h with
    | empty => rfl
    | start no_letter =>
      rw [← isAlpha_iff] at no_letter
      rw [String.toList_ofList]
      exact if_pos (by simpa using no_letter)
    | @character c d rest letter here other =>
      have bad : rest.all isNameChar = false := by
        rw [List.all_eq_false]
        exact ⟨d, here, fun h => other (isNameChar_iff.1 h)⟩
      rw [← isAlpha_iff] at letter
      rw [String.toList_ofList]
      dsimp only
      rw [if_neg (by simpa using letter), if_pos (by simpa using bad)]

theorem Faulty.not_spelled {s : String} {f : Fault} (h : Faulty s f) : ¬ Spelled s := by
  rw [← fault?_eq_none_iff, fault?_eq_some_iff.2 h]
  exact nofun

theorem ofString_eq_error_iff {s : String} {e : Invalid} :
    ofString s = .error e ↔ e.text = s ∧ Faulty s e.fault := by
  rw [← fault?_eq_some_iff]
  unfold ofString
  split
  · next f found =>
    rw [found, Except.error.injEq, Option.some.injEq]
    exact ⟨fun h => h ▸ ⟨rfl, rfl⟩, fun ⟨text, fault⟩ => by rw [← text, fault]⟩
  · next none => simp [none]

theorem text_of_ofString {text : String} {name : ServiceName} (h : ofString text = .ok name) :
    name.text = text := by
  unfold ofString at h
  split at h
  · exact nomatch h
  · obtain rfl := Except.ok.inj h
    rfl

theorem ofString_text {name : ServiceName} : ofString name.text = .ok name := by
  unfold ofString
  split
  · next found => exact nomatch name.valid.symm.trans found
  · rfl

/-- A text is accepted as a name exactly if it is spelled as one. -/
theorem exists_ofString_iff {s : String} : (∃ name, ofString s = .ok name) ↔ Spelled s := by
  rw [← fault?_eq_none_iff]
  constructor
  · rintro ⟨name, accepted⟩
    rw [← text_of_ofString accepted]
    exact name.valid
  · intro none
    unfold ofString
    split
    · next found => exact nomatch none.symm.trans found
    · exact ⟨_, rfl⟩

end ApiClients.ServiceName
