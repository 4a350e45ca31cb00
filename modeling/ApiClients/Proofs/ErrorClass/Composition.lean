import ApiClients.ErrorClass.Namespace
import ApiClients.Proofs.ErrorClass.Naming
import Mathlib.Tactic.SplitIfs

/-!
# Names of composed codes

Where a code is put together of two parts, with a character between them that is not alphanumeric, its
name is put together of the names of the parts. A part without words adds nothing. The second name goes
without the `Error` that it may have in front, for only what comes first in a name is looked at.

1. `joined_append_cons`: the words of both parts in upper case, one after the other.
2. `nameChars_append`: what follows a first word does not change what is in front of it.
3. `name?_of_parts`: both for names of codes, with what a name begins with, and that the words of a code
   are all that its name depends on.
-/

namespace ApiClients.ErrorClass

variable {a b code x : String} {s : Char} {t u v : List Char}

/-- The name of the code has no `Error` in front: it is the words of the code in upper case. -/
def Plain (code : String) : Prop :=
  name? code = some (String.ofList (joined code.toList))

instance : DecidablePred Plain := fun code =>
  inferInstanceAs (Decidable (name? code = some (String.ofList (joined code.toList))))

/-! ## Names and their characters -/

theorem joined_ne_nil_iff : joined code.toList ≠ [] ↔ HasWord code := by
  rw [ne_eq, joined_eq_nil_iff, Text.words_eq_nil_iff]
  simp [HasWord]

theorem name?_of_hasWord (h : HasWord code) : name? code = some (String.ofList (nameChars code.toList)) := by
  have chars : nameChars code.toList ≠ [] := mt nameChars_eq_nil_iff.1 (joined_ne_nil_iff.2 h)
  unfold name?
  split
  · next empty => exact absurd empty chars
  · rfl

theorem hasWord_of_name (h : name? code = some x) : HasWord code :=
  exists_name_iff.1 ⟨x, h⟩

theorem toList_of_name (h : name? code = some x) : x.toList = nameChars code.toList := by
  rw [name?_of_hasWord (hasWord_of_name h), Option.some.injEq] at h
  rw [← h, String.toList_ofList]

theorem name?_eq_of_words_eq (h : Text.words a.toList = Text.words b.toList) : name? a = name? b := by
  unfold name? nameChars joined
  rw [h]

/-- A name begins with a letter, if need be with that of `Error`. -/
theorem exists_isAlphabetic_of_name (h : name? code = some x) :
    ∃ c rest, x.toList = c :: rest ∧ Text.isAlphabetic c = true := by
  obtain ⟨c, rest, eq⟩ := List.exists_cons_of_ne_nil (joined_ne_nil_iff.2 (hasWord_of_name h))
  rw [toList_of_name h, nameChars, eq]
  dsimp only
  split_ifs with alphabetic
  · exact ⟨c, rest, rfl, alphabetic⟩
  · exact ⟨'E', _, rfl, by decide⟩

/-! ## Parts of a code -/

theorem joined_append_cons (hs : Text.isAlphanumeric s = false) (t u : List Char) :
    joined (t ++ s :: u) = joined t ++ joined u := by
  rw [joined, Text.words_append_cons hs, List.flatMap_append, joined, joined]

/-- Whether a name has `Error` in front depends on its first word alone. -/
theorem nameChars_append (ht : joined t ≠ []) (hv : joined v = joined t ++ u) :
    nameChars v = nameChars t ++ u := by
  obtain ⟨c, rest, eq⟩ := List.exists_cons_of_ne_nil ht
  rw [nameChars, nameChars, hv, eq, List.cons_append]
  dsimp only
  split_ifs <;> simp

theorem toList_push_append (a b : String) (s : Char) :
    (a.push s ++ b).toList = a.toList ++ s :: b.toList := by
  simp

theorem name?_of_second (ha : ¬ HasWord a) (hs : Text.isAlphanumeric s = false) :
    name? (a.push s ++ b) = name? b := by
  apply name?_eq_of_words_eq
  have none : Text.words a.toList = [] := joined_eq_nil_iff.1 (by simpa using mt joined_ne_nil_iff.1 ha)
  rw [toList_push_append, Text.words_append_cons hs, none, List.nil_append]

/-- The second part adds its words in upper case. -/
theorem name?_of_first (ha : name? a = some x) (hs : Text.isAlphanumeric s = false) :
    name? (a.push s ++ b) = some (x ++ String.ofList (joined b.toList)) := by
  have starts : joined a.toList ≠ [] := joined_ne_nil_iff.2 (hasWord_of_name ha)
  have both : joined (a.push s ++ b).toList = joined a.toList ++ joined b.toList := by
    rw [toList_push_append, joined_append_cons hs]
  have word : HasWord (a.push s ++ b) := by
    rw [← joined_ne_nil_iff, both]
    simp [starts]
  rw [name?_of_hasWord word, nameChars_append starts both, String.ofList_append, ← toList_of_name ha,
    String.ofList_toList]

/-- A code has a name exactly if it has an alphanumeric character; else it is refused, and quoted. A
character that is not alphanumeric between two parts of a code parts the name as well: a part without
words adds nothing, and a name without `Error` in front is added as it is. Names begin with a letter,
and codes with the same words have the same name. -/
theorem name?_of_parts :
    (∀ code, (name? code = none ↔ ¬ HasWord code) ∧
      ∀ groups, ErrorNamespace.addCode groups code = .error (.unnamed code) ↔ ¬ HasWord code) ∧
    (∀ a b s, Text.isAlphanumeric s = false →
      (¬ HasWord b → name? (a.push s ++ b) = name? a) ∧
      (¬ HasWord a → name? (a.push s ++ b) = name? b) ∧
      (HasWord a → Plain b → ∃ x y, name? a = some x ∧ name? b = some y ∧
        name? (a.push s ++ b) = some (x ++ y))) ∧
    (∀ code x, name? code = some x → ∃ c rest, x.toList = c :: rest ∧ Text.isAlphabetic c = true) ∧
    ∀ a b runs, Text.Runs a.toList runs → Text.Runs b.toList runs → name? a = name? b := by
  refine ⟨fun code => ⟨name?_eq_none_iff, fun groups => ?_⟩, fun a b s hs => ⟨fun hb => ?_,
    fun ha => name?_of_second ha hs, fun ha hb => ?_⟩, fun code x => exists_isAlphabetic_of_name,
    fun a b runs ha hb => ?_⟩
  · rw [← name?_eq_none_iff, ErrorNamespace.addCode]
    cases name? code <;> simp
  · by_cases ha : HasWord a
    · have nothing : joined b.toList = [] := by simpa using mt joined_ne_nil_iff.1 hb
      rw [name?_of_first (name?_of_hasWord ha) hs, nothing, name?_of_hasWord ha]
      simp
    · rw [name?_of_second ha hs, name?_eq_none_iff.2 ha, name?_eq_none_iff.2 hb]
  · exact ⟨_, _, name?_of_hasWord ha, hb, name?_of_first (name?_of_hasWord ha) hs⟩
  · exact name?_eq_of_words_eq (by rw [ha.words_eq, hb.words_eq])

/-- The parts `client` and `foo_bar`, and one without words. The code `4xx` has no plain name: behind
`client` it goes without the `Error` that its own name has. -/
theorem name?_of_parts_client :
    Text.isAlphanumeric '.' = false ∧ ¬ HasWord "--" ∧ HasWord "client" ∧ Plain "foo_bar" ∧
      name? "4xx" = some "Error4xx" ∧ name? ("client".push '.' ++ "4xx") = some "Client4xx" ∧
      name? ("client".push '.' ++ "--") = name? "client" ∧
      name? ("--".push '.' ++ "client") = name? "client" ∧
      name? ("client".push '.' ++ "foo_bar") = some "ClientFooBar" ∧
      (∃ c rest, "ClientFooBar".toList = c :: rest ∧ Text.isAlphabetic c = true) ∧
      Text.Runs "foo_bar".toList [['f', 'o', 'o'], ['b', 'a', 'r']] ∧
      Text.Runs "foo  bar!".toList [['f', 'o', 'o'], ['b', 'a', 'r']] ∧
      name? "foo_bar" = name? "foo  bar!" := by
  have dot : Text.isAlphanumeric '.' = false := by decide
  have bare : ¬ HasWord "--" := by decide
  have word : HasWord "client" := by decide
  have plain : Plain "foo_bar" := by decide +kernel
  have runs : Text.Runs "foo_bar".toList [['f', 'o', 'o'], ['b', 'a', 'r']] :=
    Text.runs_iff.2 (by decide)
  have others : Text.Runs "foo  bar!".toList [['f', 'o', 'o'], ['b', 'a', 'r']] :=
    Text.runs_iff.2 (by decide)
  obtain ⟨-, parts, begins, words⟩ := name?_of_parts
  obtain ⟨x, y, hx, hy, both⟩ := (parts "client" "foo_bar" '.' dot).2.2 word plain
  obtain rfl : "Client" = x := Option.some.inj (Eq.trans (by decide +kernel) hx)
  obtain rfl : "FooBar" = y := Option.some.inj (Eq.trans (by decide +kernel) hy)
  exact ⟨dot, bare, word, plain, by decide +kernel, by decide +kernel, (parts "client" "--" '.' dot).1 bare,
    (parts "--" "client" '.' dot).2.1 bare, both, begins _ _ both, runs, others,
    words _ _ _ runs others⟩

end ApiClients.ErrorClass
