import ApiClients.Proofs.ErrorClass.Classification
import ApiClients.Proofs.ErrorClass.Composition
import Mathlib.Data.List.TakeWhile

/-!
# Names as codes

A service may report the name of a class in place of a code. The name is then named again, and it should
come out as it went in. It does exactly if it is canonical, which is to say that all of its characters are
alphanumeric (`name?_eq_self_iff`). Names are made of words, so only capitals can bring other characters
into them, and those are marks (`capitalMarks`): a name with a mark falls apart there.

1. `joined_eq_cons`: what is joined begins with an alphanumeric character that is its own capital.
2. `nameChars_word_append`: so a name keeps its first word, and takes in what follows as new words.
3. `canonical_iff`: a name is canonical if no word of the code begins with a character whose capital has
   a mark.
4. `class_of_own_name`: in a namespace, a canonical name leads to the class that has it, or to the base.
-/

namespace ApiClients

namespace ErrorClass

variable {code x : String} {s w rest : List Char} {d : Char}

/-- All characters of the text are alphanumeric. -/
def Canonical (x : String) : Prop :=
  ∀ c ∈ x.toList, Text.isAlphanumeric c = true

instance : DecidablePred Canonical := fun _ => decidable_of_iff _ List.all_eq_true

theorem isAlphanumeric_of_isAlphabetic (h : Text.isAlphabetic d = true) :
    Text.isAlphanumeric d = true := by
  rw [Text.isAlphanumeric, h, Bool.true_or]

/-! ## The beginning of a name -/

theorem joined_eq_cons (h : joined s ≠ []) :
    ∃ d rest, joined s = d :: rest ∧ Text.isAlphanumeric d = true ∧ Text.capital d = [d] := by
  obtain ⟨w, ws, hw⟩ := List.exists_cons_of_ne_nil (mt joined_eq_nil_iff.2 h)
  have runs : Text.Runs s (w :: ws) := Text.runs_iff.2 hw
  rw [joined, hw, List.flatMap_cons]
  cases runs with
  | run _ nonempty inside =>
    obtain ⟨c, word, rfl⟩ := List.exists_cons_of_ne_nil nonempty
    obtain ⟨d, more, eq, fixed, origin, -⟩ := Text.capital_eq_cons c
    refine ⟨d, _, by rw [capitalized, eq]; rfl, ?_, fixed⟩
    rcases origin with rfl | letter
    · exact inside d (by simp)
    · exact isAlphanumeric_of_isAlphabetic letter

/-- A name begins with a letter that is its own capital. -/
theorem toList_of_name_eq_cons (h : name? code = some x) :
    ∃ d rest, x.toList = d :: rest ∧ Text.isAlphabetic d = true ∧ Text.capital d = [d] := by
  obtain ⟨d, rest, eq, -, fixed⟩ := joined_eq_cons (joined_ne_nil_iff.2 (hasWord_of_name h))
  rw [toList_of_name h, nameChars, eq]
  dsimp only
  split_ifs with letter
  · exact ⟨d, rest, rfl, letter, fixed⟩
  · exact ⟨'E', _, rfl, by decide, by decide +kernel⟩

/-! ## Names of names -/

/-- A first word that is its own capital stays as it is. -/
theorem joined_word_append (fixed : Text.capital d = [d])
    (inside : ∀ c ∈ d :: w, Text.isAlphanumeric c = true)
    (ends : ∀ c ∈ rest.head?, Text.isAlphanumeric c = false) :
    joined (d :: w ++ rest) = d :: w ++ joined rest := by
  have words : Text.words (d :: w ++ rest) = (d :: w) :: Text.words rest :=
    Text.words_word_append (List.cons_ne_nil d w) inside ends
  rw [joined, words, List.flatMap_cons, capitalized, fixed, joined]
  rfl

/-- Nothing that is joined begins with a character that is not alphanumeric. -/
theorem eq_nil_of_joined_eq_self (ends : ∀ c ∈ s.head?, Text.isAlphanumeric c = false)
    (h : joined s = s) : s = [] := by
  by_contra nonempty
  obtain ⟨d, rest, eq, alphanumeric, -⟩ := joined_eq_cons (h ▸ nonempty)
  rw [h] at eq
  have outside : Text.isAlphanumeric d = false := ends d (by rw [eq]; rfl)
  exact nomatch alphanumeric.symm.trans outside

/-- The name of a name has the same first word. -/
theorem nameChars_word_append (letter : Text.isAlphabetic d = true) (fixed : Text.capital d = [d])
    (inside : ∀ c ∈ d :: w, Text.isAlphanumeric c = true)
    (ends : ∀ c ∈ rest.head?, Text.isAlphanumeric c = false) :
    nameChars (d :: w ++ rest) = d :: w ++ joined rest := by
  rw [nameChars, joined_word_append fixed inside ends, List.cons_append]
  dsimp only
  rw [if_pos letter]

/-- A name is its own name exactly if it is canonical. -/
theorem name?_eq_self_iff (h : name? code = some x) : name? x = some x ↔ Canonical x := by
  obtain ⟨d, tail, eq, letter, fixed⟩ := toList_of_name_eq_cons h
  have hd : Text.isAlphanumeric d = true := isAlphanumeric_of_isAlphabetic letter
  -- The name is a first word, and what stands behind it.
  let w := tail.takeWhile Text.isAlphanumeric
  let rest := tail.dropWhile Text.isAlphanumeric
  have parts : x.toList = d :: w ++ rest := by
    rw [eq, List.cons_append, List.takeWhile_append_dropWhile]
  have inside : ∀ c ∈ d :: w, Text.isAlphanumeric c = true :=
    List.forall_mem_cons.2 ⟨hd, fun c hc => List.mem_takeWhile_imp hc⟩
  have ends : ∀ c ∈ rest.head?, Text.isAlphanumeric c = false := by
    intro c hc
    have outside := List.head?_dropWhile_not Text.isAlphanumeric tail
    rwa [Option.mem_def.1 hc] at outside
  have again : name? x = some (String.ofList (d :: w ++ joined rest)) := by
    rw [name?_of_hasWord ⟨d, by simp [eq], hd⟩, parts, nameChars_word_append letter fixed inside ends]
  have same : name? x = some x ↔ joined rest = rest := by
    rw [again, Option.some.injEq, ← String.toList_inj, String.toList_ofList, parts]
    exact List.append_right_inj _
  rw [same]
  constructor
  · intro joins c hc
    have nothing : rest = [] := eq_nil_of_joined_eq_self ends joins
    rw [parts, nothing, List.append_nil] at hc
    exact inside c hc
  · intro canonical
    have nothing : rest = [] := by
      by_contra nonempty
      obtain ⟨c, more, hc⟩ := List.exists_cons_of_ne_nil nonempty
      have alphanumeric : Text.isAlphanumeric c = true := canonical c (by simp [parts, hc])
      exact nomatch alphanumeric.symm.trans (ends c (by rw [hc]; rfl))
    rw [nothing]
    rfl

/-! ## Canonical names -/

/-- The characters of a word in upper case are those of a capital and of the rest of the word. -/
theorem isAlphanumeric_or_mem_capital {c : Char} (hw : w ∈ Text.words s) (hc : c ∈ capitalized w) :
    Text.isAlphanumeric c = true ∨ ∃ h ∈ w.head?, c ∈ Text.capital h := by
  have inside := (Text.runs_iff.2 rfl).isAlphanumeric w hw
  cases w with
  | nil => exact nomatch hc
  | cons h rest =>
    rcases List.mem_append.1 hc with first | later
    · exact .inr ⟨h, rfl, first⟩
    · exact .inl (inside c (by simp [later]))

theorem mem_capitalized_of_mem_capital {c h : Char} (hh : h ∈ w.head?) (hc : c ∈ Text.capital h) :
    c ∈ capitalized w := by
  obtain ⟨rest, rfl⟩ := List.head?_eq_some_iff.1 hh
  exact List.mem_append_left rest hc

/-- What may stand in front of a name is alphanumeric. -/
theorem forall_mem_nameChars_iff {p : Char → Prop} (hp : ∀ c, Text.isAlphanumeric c = true → p c) :
    (∀ c ∈ nameChars s, p c) ↔ ∀ c ∈ joined s, p c := by
  have plain : ∀ c ∈ leader, Text.isAlphanumeric c = true :=
    List.all_eq_true.1 (by decide +kernel)
  unfold nameChars
  split
  · next empty => simp [empty]
  · next c rest eq =>
    rw [eq]
    split
    · rfl
    · rw [List.forall_mem_append]
      exact and_iff_right fun c hc => hp c (plain c hc)

/-- What is not alphanumeric in a name is a mark. -/
theorem isAlphanumeric_or_mem_capitalMarks (h : name? code = some x) :
    ∀ c ∈ x.toList, Text.isAlphanumeric c = true ∨ c ∈ Text.capitalMarks := by
  rw [toList_of_name h, forall_mem_nameChars_iff fun c => .inl]
  intro c hc
  obtain ⟨w, hw, hc⟩ := List.mem_flatMap.1 hc
  rcases isAlphanumeric_or_mem_capital hw hc with alphanumeric | ⟨first, hf, hc⟩
  · exact .inl alphanumeric
  · obtain ⟨d, rest, eq, -, origin, marks⟩ := Text.capital_eq_cons first
    rw [eq] at hc
    rcases List.mem_cons.1 hc with rfl | later
    · rcases origin with rfl | letter
      · exact .inl ((Text.runs_iff.2 rfl).isAlphanumeric w hw c (List.mem_of_mem_head? hf))
      · exact .inl (isAlphanumeric_of_isAlphabetic letter)
    · exact marks c later

/-- Marks come from the capitals of first characters of words, and from nowhere else. -/
theorem canonical_iff (h : name? code = some x) :
    Canonical x ↔ ∀ w ∈ Text.words code.toList, ∀ first ∈ w.head?,
      ∀ c ∈ Text.capital first, Text.isAlphanumeric c = true := by
  unfold Canonical
  rw [toList_of_name h, forall_mem_nameChars_iff fun _ => id]
  constructor
  · intro all w hw first hf c hc
    exact all c (List.mem_flatMap.2 ⟨w, hw, mem_capitalized_of_mem_capital hf hc⟩)
  · intro capitals c hc
    obtain ⟨w, hw, hc⟩ := List.mem_flatMap.1 hc
    rcases isAlphanumeric_or_mem_capital hw hc with alphanumeric | ⟨first, hf, hc⟩
    · exact alphanumeric
    · exact capitals w hw first hf c hc

theorem canonical_baseName : Canonical baseName := by
  decide +kernel

theorem name?_baseName : name? baseName = some baseName := by
  decide +kernel

end ErrorClass

/-! ## Names of classes as codes -/

namespace ErrorNamespace

open ErrorClass

variable {n : ErrorNamespace} {codes : List String} {service : String} {k : ErrorClass}

section Holds

variable (h : Holds n service (ownNaming codes)) (separable : Separable codes)

include h separable

theorem Holds.classOf_baseName : n.classOf baseName = n.base := by
  have undeclared : baseName ∉ codes := fun mem => separable.not_base _ mem name?_baseName
  exact (h.classOf_eq_base_iff separable undeclared).2 (.inr (.inl name?_baseName))

/-- The code with a canonical name of a class is that of the class, or it is not declared. -/
theorem Holds.classOf_canonical (hk : k ∈ n.classes) (canonical : Canonical k.name) :
    n.classOf k.name = if k.code? = some k.name then k else n.base := by
  obtain ⟨x, c, ⟨hc, named⟩, rfl⟩ := h.mem_classes_iff.1 hk
  have again : name? x = some x := (name?_eq_self_iff named).2 canonical
  show n.classOf x = if some c = some x then _ else _
  split_ifs with same
  · obtain rfl := Option.some.inj same
    have found : n.declaredClass? c = some (.derived service c c true) :=
      (h.declaredClass?_eq_some_iff separable).2 ⟨c, ⟨hc, named⟩, rfl⟩
    rw [classOf, found]
  · have undeclared : x ∉ codes := by
      intro mem
      obtain rfl := separable.injective x mem c hc (again.trans named.symm)
      exact same rfl
    exact (h.classOf_eq_base_iff separable undeclared).2 (.inr (.inr ⟨_, hk, again⟩))

/-- The code with a name that is not canonical gives another name. -/
theorem Holds.name_classOf_ne (hk : k ∈ n.classes) (marked : ¬ Canonical k.name) :
    (n.classOf k.name).name ≠ k.name := by
  obtain ⟨x, c, ⟨hc, named⟩, rfl⟩ := h.mem_classes_iff.1 hk
  have other : name? x ≠ some x := mt (name?_eq_self_iff named).1 marked
  show (n.classOf x).name ≠ x
  have classified := h.classified separable x
  generalize n.classOf x = k at classified
  cases classified with
  | declared _ renamed | made _ renamed =>
    exact fun same => other (renamed.trans (congrArg some same))
  | base =>
    rw [h.base]
    rintro rfl
    exact separable.not_base c hc named

end Holds

/-- The characters of a name are alphanumeric, but for the marks that capitals may have, and all of them
are if no word of the code begins with a character whose capital has a mark. The names that are all
alphanumeric, and no others, are their own names. In a namespace, such a name of a class leads as a code
to the class if this is the code of the class, and else to the base. Any other name leads to a class with
another name. -/
theorem class_of_own_name :
    (∀ code x, name? code = some x →
      (∀ c ∈ x.toList, Text.isAlphanumeric c = true ∨ c ∈ Text.capitalMarks) ∧
      (Canonical x ↔ ∀ w ∈ Text.words code.toList, ∀ first ∈ w.head?,
        ∀ c ∈ Text.capital first, Text.isAlphanumeric c = true) ∧
      (name? x = some x ↔ Canonical x)) ∧
    ∀ service a n, ofApi service a = .ok n → ∀ k ∈ n.base :: n.classes,
      (Canonical k.name → n.classOf k.name = if k.code? = some k.name then k else n.base) ∧
      (¬ Canonical k.name → (n.classOf k.name).name ≠ k.name) := by
  refine ⟨fun code x named => ⟨isAlphanumeric_or_mem_capitalMarks named, canonical_iff named,
    name?_eq_self_iff named⟩, fun service a n made k hk => ?_⟩
  obtain ⟨separable, holds⟩ := holds_of_ofApi made
  rcases List.mem_cons.1 hk with rfl | hk
  · have name_eq : n.base.name = baseName := by
      rw [holds.base]
      rfl
    rw [name_eq, ite_self]
    exact ⟨fun _ => holds.classOf_baseName separable, fun marked => absurd canonical_baseName marked⟩
  · exact ⟨holds.classOf_canonical separable hk, holds.name_classOf_ne separable hk⟩

/-- The class of `foo-bar` is not found by its name `FooBar`, which belongs to no code that is declared,
and that of `Foo` is. -/
theorem class_of_own_name_foo_bar :
    let exception : Json := .ofMembers [("exception", .bool true)]
    let a : Api := ⟨.ofList [("shapes", .ofMembers [("Foo", exception), ("foo-bar", exception)])], 0⟩
    let foo : ErrorClass := .derived "S" "Foo" "Foo" true
    let bar : ErrorClass := .derived "S" "FooBar" "foo-bar" true
    let n : ErrorNamespace :=
      { service := "S", names := .ofList [("Foo", "Foo"), ("foo-bar", "FooBar")],
        declared := .ofList [("Foo", foo), ("FooBar", bar)] }
    ofApi "S" a = .ok n ∧ foo ∈ n.base :: n.classes ∧ bar ∈ n.base :: n.classes ∧
      name? "foo-bar" = some "FooBar" ∧ Canonical "FooBar" ∧ name? "FooBar" = some "FooBar" ∧
      n.classOf "FooBar" = n.base ∧ n.classOf "Foo" = foo := by
  intro exception a foo bar n
  have made : ofApi "S" a = .ok n := by decide +kernel
  have hfoo : foo ∈ n.base :: n.classes := by decide
  have hbar : bar ∈ n.base :: n.classes := by decide
  have named : name? "foo-bar" = some "FooBar" := by decide +kernel
  obtain ⟨names, classes⟩ := class_of_own_name
  obtain ⟨-, -, again_iff⟩ := names _ _ named
  have canonical : Canonical "FooBar" := by decide +kernel
  exact ⟨made, hfoo, hbar, named, canonical, again_iff.2 canonical,
    (classes "S" a n made bar hbar).1 canonical, (classes "S" a n made foo hfoo).1 (by decide +kernel)⟩

/-- The capital of a letter with a caron may be two characters, of which the caron is not alphanumeric.
The name of a code that begins with such a letter is not its own name, and as a code it leads neither to
the class that has it nor to the base, but to a new class with another name. -/
theorem mark_in_name :
    let a : Api := ⟨.ofList [("shapes",
      .ofMembers [("\u01f0x", .ofMembers [("exception", .bool true)])])], 0⟩
    let k : ErrorClass := .derived "S" "J\u030cx" "\u01f0x" true
    let n : ErrorNamespace :=
      { service := "S", names := .ofList [("\u01f0x", "J\u030cx")],
        declared := .ofList [("J\u030cx", k)] }
    name? "\u01f0x" = some "J\u030cx" ∧ Text.isAlphanumeric '\u030c' = false ∧
      name? "J\u030cx" = some "JX" ∧ ofApi "S" a = .ok n ∧ k ∈ n.classes ∧
      n.classOf "J\u030cx" = .derived "S" "JX" "J\u030cx" false ∧ "JX" ∉ n.classNames := by
  decide +kernel

end ErrorNamespace

end ApiClients
