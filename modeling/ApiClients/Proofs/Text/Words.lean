import ApiClients.Text.Segments

/-!
# The words of a text

A text is a sequence of words with gaps between them, and it is so in one way only: its words are its
longest runs of alphanumeric characters (`Runs`). `runs_iff` says that `words` finds them. Both halves
follow the text from its beginning, where a character either widens the gap before the first word or
belongs to a word.
-/

namespace ApiClients.Text

variable {c : Char} {s gap word rest : List Char} {ws : List (List Char)}

/-- The longest runs of alphanumeric characters in a text, in their order. Each run ends where the text
ends or at a character that is not alphanumeric. -/
inductive Runs : List Char → List (List Char) → Prop where
  | none {gap : List Char} (outside : ∀ c ∈ gap, isAlphanumeric c = false) : Runs gap []
  | run {gap word rest : List Char} {ws : List (List Char)}
      (outside : ∀ c ∈ gap, isAlphanumeric c = false)
      (nonempty : word ≠ []) (inside : ∀ c ∈ word, isAlphanumeric c = true)
      (ends : ∀ c ∈ rest.head?, isAlphanumeric c = false) (others : Runs rest ws) :
      Runs (gap ++ word ++ rest) (word :: ws)

/-! ## Words of the parts of a text -/

theorem words_cons_of_not (hc : isAlphanumeric c = false) (s : List Char) : words (c :: s) = words s :=
  words_append_cons hc [] s

/-- There is a word exactly if there is an alphanumeric character. -/
theorem words_eq_nil_iff : words s = [] ↔ ∀ c ∈ s, isAlphanumeric c = false := by
  induction s with
  | nil => simp [words, segments]
  | cons c rest ih =>
    cases hc : isAlphanumeric c with
    | false => simp [words_cons_of_not hc, ih, hc]
    | true =>
      have starts : words (c :: rest) ≠ [] := by
        rw [words, segments, if_pos hc]
        split <;> simp
      simp [starts, hc]

/-- A gap in front adds no word. -/
theorem words_gap_append (outside : ∀ c ∈ gap, isAlphanumeric c = false) (s : List Char) :
    words (gap ++ s) = words s := by
  induction gap with
  | nil => rfl
  | cons c gap ih =>
    rw [List.forall_mem_cons] at outside
    rw [List.cons_append, words_cons_of_not outside.1, ih outside.2]

theorem segments_eq_singleton (inside : ∀ c ∈ word, isAlphanumeric c = true) :
    segments word = [word] := by
  induction word with
  | nil => rfl
  | cons c word ih =>
    rw [List.forall_mem_cons] at inside
    rw [segments, if_pos inside.1, ih inside.2]

/-- A word that ends is the first of the words. -/
theorem words_word_append (nonempty : word ≠ []) (inside : ∀ c ∈ word, isAlphanumeric c = true)
    (ends : ∀ c ∈ rest.head?, isAlphanumeric c = false) : words (word ++ rest) = word :: words rest := by
  have alone : words word = [word] := by
    rw [words, segments_eq_singleton inside]
    simp [nonempty]
  cases rest with
  | nil =>
    rw [List.append_nil, alone, words_eq_nil_iff.2 (by simp)]
  | cons c rest =>
    have hc : isAlphanumeric c = false := ends c rfl
    rw [words_append_cons hc, alone, words_cons_of_not hc, List.singleton_append]

/-! ## Runs -/

theorem Runs.words_eq (h : Runs s ws) : words s = ws := by
  induction h with
  | none outside => exact words_eq_nil_iff.2 outside
  | run outside nonempty inside ends _ ih =>
    rw [List.append_assoc, words_gap_append outside, words_word_append nonempty inside ends, ih]

/-- A text may begin with a word. -/
theorem Runs.word_append (nonempty : word ≠ []) (inside : ∀ c ∈ word, isAlphanumeric c = true)
    (ends : ∀ c ∈ rest.head?, isAlphanumeric c = false) (others : Runs rest ws) :
    Runs (word ++ rest) (word :: ws) :=
  have outside : ∀ c ∈ [], isAlphanumeric c = false := by simp
  .run outside nonempty inside ends others

/-- The gap before the first word grows. -/
theorem Runs.cons_outside (h : Runs s ws) (hc : isAlphanumeric c = false) : Runs (c :: s) ws := by
  cases h with
  | none outside => exact .none (List.forall_mem_cons.2 ⟨hc, outside⟩)
  | @run gap word rest ws outside nonempty inside ends others =>
    have wider : ∀ d ∈ c :: gap, isAlphanumeric d = false := List.forall_mem_cons.2 ⟨hc, outside⟩
    exact .run wider nonempty inside ends others

/-- The character begins a word of its own, or the first word if there is no gap before it. -/
theorem Runs.cons_inside (h : Runs s ws) (hc : isAlphanumeric c = true) :
    ∃ vs, Runs (c :: s) vs := by
  have single : ∀ d ∈ [c], isAlphanumeric d = true := by simpa using hc
  cases h with
  | none outside =>
    have ends : ∀ d ∈ s.head?, isAlphanumeric d = false :=
      fun d hd => outside d (List.mem_of_mem_head? hd)
    exact ⟨_, .word_append (List.cons_ne_nil c []) single ends (.none outside)⟩
  | @run gap word rest ws outside nonempty inside ends others =>
    cases gap with
    | nil =>
      have longer : ∀ d ∈ c :: word, isAlphanumeric d = true := List.forall_mem_cons.2 ⟨hc, inside⟩
      exact ⟨_, .word_append (List.cons_ne_nil c word) longer ends others⟩
    | cons d gap =>
      have apart : ∀ e ∈ (d :: gap ++ word ++ rest).head?, isAlphanumeric e = false := by
        simpa using outside d (by simp)
      exact ⟨_, .word_append (List.cons_ne_nil c []) single apart
        (.run outside nonempty inside ends others)⟩

theorem exists_runs (s : List Char) : ∃ ws, Runs s ws := by
  induction s with
  | nil => exact ⟨[], .none (by simp)⟩
  | cons c s ih =>
    obtain ⟨ws, h⟩ := ih
    cases hc : isAlphanumeric c with
    | false => exact ⟨ws, h.cons_outside hc⟩
    | true => exact h.cons_inside hc

/-- The words of a text are its longest runs of alphanumeric characters. -/
theorem runs_iff : Runs s ws ↔ words s = ws := by
  constructor
  · exact Runs.words_eq
  · rintro rfl
    obtain ⟨ws, h⟩ := exists_runs s
    rwa [h.words_eq]

theorem Runs.isAlphanumeric (h : Runs s ws) : ∀ w ∈ ws, ∀ c ∈ w, isAlphanumeric c = true := by
  induction h with
  | none => simp
  | run _ _ inside _ _ ih => exact List.forall_mem_cons.2 ⟨inside, ih⟩

end ApiClients.Text
