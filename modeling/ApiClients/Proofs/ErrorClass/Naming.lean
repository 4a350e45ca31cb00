import ApiClients.ErrorClass.Name
import ApiClients.Proofs.Text.Capital
import ApiClients.Proofs.Text.Words

/-!
# Which codes give a name

A code gives a class name exactly if it has an alphanumeric character (`name?_eq_none_iff`): such a
character lies in a word, and a word leaves at least one character in the name, for no capital is
empty.
-/

namespace ApiClients.ErrorClass

/-- The code has an alphanumeric character. -/
def HasWord (code : String) : Prop :=
  ∃ c ∈ code.toList, Text.isAlphanumeric c = true

instance : DecidablePred HasWord := fun code =>
  decidable_of_iff (code.toList.any Text.isAlphanumeric = true) List.any_eq_true

theorem capitalized_eq_nil_iff {w : List Char} : capitalized w = [] ↔ w = [] := by
  cases w with
  | nil => simp [capitalized]
  | cons c rest => simp [capitalized, Text.capital_ne_nil]

theorem joined_eq_nil_iff {s : List Char} : joined s = [] ↔ Text.words s = [] := by
  have nonempty : ∀ w ∈ Text.words s, w ≠ [] := by
    intro w hw
    simpa using (List.mem_filter.1 hw).2
  rw [joined, List.flatMap_eq_nil_iff, List.eq_nil_iff_forall_not_mem]
  exact forall₂_congr fun w hw => by
    simp [capitalized_eq_nil_iff, nonempty w hw]

theorem nameChars_eq_nil_iff {s : List Char} : nameChars s = [] ↔ joined s = [] := by
  unfold nameChars
  split
  · next h => simp [h]
  · next h =>
    rw [h]
    split <;> simp

/-- The codes without a name are those without an alphanumeric character. -/
theorem name?_eq_none_iff {code : String} : name? code = none ↔ ¬ HasWord code := by
  have h : name? code = none ↔ nameChars code.toList = [] := by
    unfold name?
    split
    · next h => simp [h]
    · next ne => simpa using ne
  rw [h, nameChars_eq_nil_iff, joined_eq_nil_iff, Text.words_eq_nil_iff]
  simp [HasWord]

theorem exists_name_iff {code : String} : (∃ name, name? code = some name) ↔ HasWord code := by
  rw [← Option.ne_none_iff_exists', ne_eq, name?_eq_none_iff, Classical.not_not]

end ApiClients.ErrorClass
