import ApiClients.Json.Printer
import ApiClients.Proofs.Json.Numeral
import ApiClients.Proofs.Json.Parts
import Mathlib.Data.List.Forall2

/-!
# Reading characters

How the mode moves on over a stretch of text, and which tokens that completes:

1. `Scans`: characters lead from one mode to another. Judgments are composed with `Scans.append`.
2. `Spells`: characters are read from the start, and the end of the text completes the last token. A
   word may still be open, so text that follows must not begin with a character of a word
   (`Spells.followed`).
3. `spells_number` and `scans_stringText`: an integer and a string are read back from their texts,
   whatever escapes the string needs.
-/

namespace ApiClients.Json

namespace Token

variable {m m' m'' : Mode} {s r : List Char} {ts us : List Token} {c : Char} {t : Token}

/-! ## Reading from mode to mode -/

/-- The characters lead from one mode to another and complete the tokens. -/
inductive Scans : Mode → List Char → List Token → Mode → Prop where
  | nil {m : Mode} : Scans m [] [] m
  | cons {m m' m'' : Mode} {c : Char} {s : List Char} {ts us : List Token}
      (step : m.step? c = some (ts, m')) (rest : Scans m' s us m'') :
      Scans m (c :: s) (ts ++ us) m''

theorem Scans.single (h : m.step? c = some (ts, m')) : Scans m [c] ts m' := by
  have := Scans.cons h .nil
  rwa [List.append_nil] at this

theorem Scans.append (h : Scans m s ts m') (h' : Scans m' r us m'') :
    Scans m (s ++ r) (ts ++ us) m'' := by
  induction h with
  | nil => exact h'
  | cons step _ ih =>
    rw [List.append_assoc]
    exact .cons step (ih h')

/-- One character more, which completes no token and leads to the mode `m'`. -/
theorem Scans.skip (m' : Mode) (step : m.step? c = some ([], m')) (h : Scans m' s ts m'') :
    Scans m (c :: s) ts m'' :=
  .cons step h

theorem Scans.foldlM (h : Scans m s ts m') (before : List Token) :
    s.foldlM scanStep? (before, m) = some (ts.reverse ++ before, m') := by
  induction h generalizing before with
  | nil => rfl
  | @cons m m' m'' c s ts us step _ ih =>
    have first : scanStep? (before, m) c = some (ts.reverse ++ before, m') := by
      rw [scanStep?]
      simp [step]
    rw [List.foldlM_cons, first]
    show s.foldlM scanStep? (ts.reverse ++ before, m') = _
    rw [ih, List.reverse_append, List.append_assoc]

/-! ## Reading to the end -/

/-- The characters spell the tokens, of which the end of the text may complete the last one. -/
def Spells (s : List Char) (tokens : List Token) : Prop :=
  ∃ ts m us, Scans .blank s ts m ∧ m.finish? = some us ∧ tokens = ts ++ us

theorem ofText?_of_spells {text : String} (h : Spells text.toList ts) : ofText? text = some ts := by
  obtain ⟨ts, m, us, scans, finish, rfl⟩ := h
  unfold ofText?
  rw [scans.foldlM]
  simp [finish]

theorem Scans.spells (h : Scans .blank s ts .blank) : Spells s ts :=
  ⟨ts, .blank, [], h, rfl, (List.append_nil ts).symm⟩

theorem Scans.append_spells (h : Scans .blank s ts .blank) (h' : Spells r us) :
    Spells (s ++ r) (ts ++ us) := by
  obtain ⟨us, m, vs, scans, finish, rfl⟩ := h'
  exact ⟨ts ++ us, m, vs, h.append scans, finish, (List.append_assoc ..).symm⟩

/-- A character that belongs to no word completes what the end of the text would complete. -/
theorem step?_of_finish? (h : m.finish? = some us) (hc : isWordChar c = false)
    (start : Mode.start? c = some (ts, m')) : m.step? c = some (us ++ ts, m') := by
  cases m with
  | blank =>
    obtain rfl : [] = us := Option.some.inj h
    exact start
  | word before =>
    obtain ⟨t, ht, rfl⟩ := Option.map_eq_some_iff.1 h
    rw [Mode.step?, if_neg (by simp [hc]), ht, start]
    rfl
  | _ => exact nomatch h

/-- Text that begins with a character of no word may follow. -/
theorem Spells.followed (h : Spells s ts) (hc : isWordChar c = false)
    (h' : Scans .blank (c :: r) us m) : Scans .blank (s ++ c :: r) (ts ++ us) m := by
  obtain ⟨ts, m', vs, scans, finish, rfl⟩ := h
  cases h' with
  | @cons _ m'' _ _ _ us ws step rest =>
    have step' : m'.step? c = some (vs ++ us, m'') := step?_of_finish? finish hc step
    have := scans.append (.cons step' rest)
    rwa [List.append_assoc] at this ⊢

/-! ## Words -/

theorem start?_of_isWordChar (h : isWordChar c = true) : Mode.start? c = some ([], .word [c]) := by
  have not_blank : isBlank c = false := by
    by_contra blank
    simp only [isBlank, Bool.not_eq_false, Bool.or_eq_true, beq_iff_eq] at blank
    rcases blank with ((rfl | rfl) | rfl) | rfl <;> exact absurd h (by decide)
  have not_quote : c ≠ '"' := by
    rintro rfl
    exact absurd h (by decide)
  rw [Mode.start?, if_neg (by simp [not_blank]), if_neg not_quote, if_pos h]

theorem scans_word {before : List Char} (h : ∀ c ∈ s, isWordChar c = true) :
    Scans (.word before) s [] (.word (s.reverse ++ before)) := by
  induction s generalizing before with
  | nil => exact .nil
  | cons c s ih =>
    have step : (Mode.word before).step? c = some ([], .word (c :: before)) := by
      rw [Mode.step?, if_pos (h c (by simp))]
    have rest : Scans (.word (c :: before)) s [] (.word (s.reverse ++ c :: before)) :=
      ih fun d hd => h d (by simp [hd])
    rw [List.reverse_cons, List.append_assoc]
    exact .skip _ step rest

theorem spells_word (ne : s ≠ []) (h : ∀ c ∈ s, isWordChar c = true) (ht : ofWord? s = some t) :
    Spells s [t] := by
  cases s with
  | nil => exact absurd rfl ne
  | cons c s =>
    have scans : Scans .blank (c :: s) [] (.word (s.reverse ++ [c])) :=
      .skip _ (start?_of_isWordChar (h c (by simp))) (scans_word fun d hd => h d (by simp [hd]))
    refine ⟨[], _, [t], scans, ?_, rfl⟩
    rw [Mode.finish?, ← List.reverse_cons, List.reverse_reverse, ht]
    rfl

theorem isWordChar_of_mem_signed {negative : Bool} {n : Nat} (h : c ∈ Number.signed negative n) :
    isWordChar c = true ∧ c ≠ 'n' ∧ c ≠ 't' ∧ c ≠ 'f' := by
  have digit : c.isDigit = true ∨ c = '-' := by
    unfold Number.signed at h
    cases negative with
    | true =>
      rcases List.mem_cons.1 h with rfl | h
      · exact .inr rfl
      · exact .inl (Number.isDigit_of_mem_toDigits h)
    | false => exact .inl (Number.isDigit_of_mem_toDigits h)
  rcases digit with h | rfl
  · refine ⟨by simp [isWordChar, Char.isAlphanum, h], ?_, ?_, ?_⟩
    all_goals
      rintro rfl
      exact absurd h (by decide)
  · decide

theorem spells_number {n : Number} (h : n.isInteger = true) : Spells n.text.toList [.number n] := by
  cases n with
  | float => exact nomatch h
  | integer i bounded =>
    have reads := Number.ofChars?_text bounded
    rw [Number.toList_text] at reads ⊢
    have chars : ∀ c ∈ Number.signed (decide (i < 0)) i.natAbs,
        isWordChar c = true ∧ c ≠ 'n' ∧ c ≠ 't' ∧ c ≠ 'f' := fun _ => isWordChar_of_mem_signed
    cases hs : Number.signed (decide (i < 0)) i.natAbs with
    | nil =>
      have nothing : Number.ofChars? [] = none := by decide
      rw [hs, nothing] at reads
      exact nomatch reads
    | cons d s =>
      rw [hs] at reads chars
      obtain ⟨-, not_n, not_t, not_f⟩ := chars d (by simp)
      refine spells_word (by simp) (fun c hc => (chars c hc).1) ?_
      simp [ofWord?, not_n, not_t, not_f, reads]

/-! ## Strings -/

theorem hexValue?_digitChar : ∀ n < 16, hexValue? (Nat.digitChar n) = some n := by decide

theorem toList_unitEscape : ∀ n < 32, (unitEscape n).toList =
    ['\\', 'u', '0', '0', Nat.digitChar (n / 16), Nat.digitChar (n % 16)] := by
  have digits : ∀ n < 32, List.replicate (4 - (Nat.toDigits 16 n).length) '0' ++ Nat.toDigits 16 n =
      ['0', '0', Nat.digitChar (n / 16), Nat.digitChar (n % 16)] := by decide
  intro n hn
  have := digits n hn
  simp only [unitEscape, Text.hexDigits, String.toList_append, String.toList_ofList,
    String.length_ofList, List.append_assoc, this]
  rfl

/-- A control character is read from the four digits of its code unit. -/
theorem scans_unitEscape {before : List Char} (hc : c.toNat < 32) :
    Scans (.text before) (unitEscape c.toNat).toList [] (.text (c :: before)) := by
  have high := hexValue?_digitChar (c.toNat / 16) (by omega)
  have low := hexValue?_digitChar (c.toNat % 16) (by omega)
  have value : 16 * (c.toNat / 16) + c.toNat % 16 = c.toNat := by omega
  have done : Mode.afterUnit? before none c.toNat = some (.text (c :: before)) := by
    have not_high : isHigh c.toNat = false := by simp [isHigh]; omega
    have not_low : isLow c.toNat = false := by simp [isLow]; omega
    simp [Mode.afterUnit?, not_high, not_low, Char.ofNat_toNat]
  rw [toList_unitEscape _ hc]
  refine .skip (.escape before) rfl (.skip (.unit before none 4 0) rfl
    (.skip (.unit before none 3 0) rfl (.skip (.unit before none 2 0) rfl
    (.skip (.unit before none 1 (c.toNat / 16)) ?_ (.single ?_)))))
  · simp [Mode.step?, high]
  · simp [Mode.step?, low, value, done]

theorem scans_escaped {before : List Char} (c : Char) :
    Scans (.text before) (escaped c).toList [] (.text (c :: before)) := by
  unfold escaped
  split
  case h_8 _ not_quote not_backslash _ _ _ _ _ =>
    split_ifs with hc
    · exact scans_unitEscape hc
    · have step : (Mode.text before).step? c = some ([], .text (c :: before)) := by
        rw [Mode.step?, if_neg not_quote, if_neg not_backslash, if_neg hc]
      rw [Char.toString_eq_singleton, String.toList_singleton]
      exact .single step
  all_goals exact .skip (.escape before) rfl (.single rfl)

theorem scans_flatMap_escaped {before : List Char} (s : List Char) :
    Scans (.text before) (s.flatMap fun c => (escaped c).toList) [] (.text (s.reverse ++ before)) := by
  induction s generalizing before with
  | nil => exact .nil
  | cons c s ih =>
    rw [List.flatMap_cons, List.reverse_cons, List.append_assoc]
    exact (scans_escaped c).append ih

theorem toList_stringText (s : String) : (stringText s).toList =
    '"' :: (s.toList.flatMap (fun c => (escaped c).toList) ++ ['"']) := by
  simp [stringText, List.flatMap_map]

/-- A string is read back from its text. -/
theorem scans_stringText (s : String) : Scans .blank (stringText s).toList [.string s] .blank := by
  rw [toList_stringText]
  refine .skip (.text []) rfl ((scans_flatMap_escaped s.toList).append (.single ?_))
  simp [Mode.step?, String.ofList_toList]

end Token

end ApiClients.Json
