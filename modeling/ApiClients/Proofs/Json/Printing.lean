import ApiClients.Proofs.Json.Scanning

/-!
# The tokens of a value

A value has one sequence of tokens (`Json.tokens`), and both of its printed forms spell this sequence
if all numbers in the value are integers (`spells_compact`, `spells_prettyAt`). The two forms differ
only in white space: each puts its lines between brackets, with a comma and perhaps white space
between one line and the next (`Token.scans_bracketed`).
-/

namespace ApiClients.Json

open Token

/-! ## Tokens -/

mutual

/-- The tokens of a value. -/
def tokens : Json → List Token
  | null => [.null]
  | bool b => [.bool b]
  | number n => [.number n]
  | string s => [.string s]
  | array items => .openArray :: ([Token.comma].intercalate (itemTokens items) ++ [.closeArray])
  | object members =>
    .openObject :: ([Token.comma].intercalate (memberTokens members) ++ [.closeObject])

def itemTokens : List Json → List (List Token)
  | [] => []
  | x :: xs => x.tokens :: itemTokens xs

def memberTokens {lo : Option String} : Members Json lo → List (List Token)
  | .nil => []
  | .cons k _ x rest => (.string k :: .colon :: x.tokens) :: memberTokens rest

end

theorem itemTokens_eq (items : List Json) : itemTokens items = items.map tokens := by
  induction items with
  | nil => rfl
  | cons x xs ih => rw [itemTokens, ih, List.map_cons]

theorem memberTokens_eq {lo : Option String} (t : Members Json lo) :
    memberTokens t = t.toList.map fun e => .string e.1 :: .colon :: e.2.tokens := by
  induction t with
  | nil => rfl
  | cons key above value rest ih => rw [memberTokens, ih, Members.toList_cons, List.map_cons]

/-! ## Lines -/

theorem compactItems_eq (items : List Json) : compactItems items = items.map compact := by
  induction items with
  | nil => rfl
  | cons x xs ih => rw [compactItems, ih, List.map_cons]

theorem compactMembers_eq {lo : Option String} (t : Members Json lo) :
    compactMembers t = t.toList.map fun e => stringText e.1 ++ ":" ++ e.2.compact := by
  induction t with
  | nil => rfl
  | cons key above value rest ih => rw [compactMembers, ih, Members.toList_cons, List.map_cons]

theorem prettyItems_eq (depth : Nat) (items : List Json) :
    prettyItems depth items = items.map (prettyAt depth) := by
  induction items with
  | nil => rfl
  | cons x xs ih => rw [prettyItems, ih, List.map_cons]

theorem prettyMembers_eq (depth : Nat) {lo : Option String} (t : Members Json lo) :
    prettyMembers depth t = t.toList.map fun e => stringText e.1 ++ ": " ++ e.2.prettyAt depth := by
  induction t with
  | nil => rfl
  | cons key above value rest ih => rw [prettyMembers, ih, Members.toList_cons, List.map_cons]

namespace Token

variable {s : List Char} {c : Char} {t : Token} {lines : List (List Char)} {tss : List (List Token)}

theorem start?_of_punctuation (h : ofPunctuation? c = some t) :
    Mode.start? c = some ([t], .blank) ∧ isWordChar c = false := by
  unfold ofPunctuation? at h
  split at h
  case h_7 => exact nomatch h
  all_goals
    obtain rfl := Option.some.inj h
    exact ⟨rfl, by decide⟩

theorem start?_of_isBlank (h : isBlank c = true) :
    Mode.start? c = some ([], .blank) ∧ isWordChar c = false := by
  refine ⟨by rw [Mode.start?, if_pos h], ?_⟩
  simp only [isBlank, Bool.or_eq_true, beq_iff_eq] at h
  rcases h with ((rfl | rfl) | rfl) | rfl <;> decide

theorem scans_blanks (h : ∀ c ∈ s, isBlank c = true) : Scans .blank s [] .blank := by
  induction s with
  | nil => exact .nil
  | cons c s ih =>
    exact .skip _ (start?_of_isBlank (h c (by simp))).1 (ih fun d hd => h d (by simp [hd]))

/-- A punctuation mark with white space behind it. -/
theorem scans_mark (h : ofPunctuation? c = some t) (hs : ∀ d ∈ s, isBlank d = true) :
    Scans .blank (c :: s) [t] .blank := by
  have step : Mode.blank.step? c = some ([t], .blank) := (start?_of_punctuation h).1
  exact .cons step (scans_blanks hs)

/-- Lines with a comma and white space between them. -/
theorem Spells.intercalate (h : List.Forall₂ Spells lines tss) (hs : ∀ d ∈ s, isBlank d = true) :
    Spells ((',' :: s).intercalate lines) ([Token.comma].intercalate tss) := by
  have comma : ofPunctuation? ',' = some .comma := rfl
  induction h with
  | nil => exact Scans.nil.spells
  | cons first rest ih =>
    cases rest with
    | nil => simpa using first
    | cons second rest =>
      rw [List.intercalate_cons_cons, List.intercalate_cons_cons]
      have parted := first.followed (start?_of_punctuation comma).2 (scans_mark comma hs)
      exact parted.append_spells ih

/-- Text that may be followed by white space and a punctuation mark. -/
theorem Spells.closed {ts : List Token} (h : Spells s ts) {r : List Char}
    (hr : ∀ d ∈ r, isBlank d = true) (hc : ofPunctuation? c = some t) :
    Scans .blank (s ++ (r ++ [c])) (ts ++ [t]) .blank := by
  have mark : Scans .blank [c] [t] .blank := scans_mark hc (by simp)
  cases r with
  | nil => exact h.followed (start?_of_punctuation hc).2 mark
  | cons d r =>
    have blank : isBlank d = true := hr d (by simp)
    exact h.followed (start?_of_isBlank blank).2 ((scans_blanks hr).append mark)

/-- Lines between brackets, with white space behind the first bracket, behind every comma and before
the last bracket. -/
theorem scans_bracketed {o : Char} {u : Token} (first between last : List Char)
    (h : List.Forall₂ Spells lines tss) (ho : ofPunctuation? o = some u)
    (hc : ofPunctuation? c = some t) (hf : ∀ d ∈ first, isBlank d = true)
    (hb : ∀ d ∈ between, isBlank d = true) (hl : ∀ d ∈ last, isBlank d = true) :
    Scans .blank (o :: first ++ ((',' :: between).intercalate lines ++ (last ++ [c])))
      (u :: ([Token.comma].intercalate tss ++ [t])) .blank :=
  (scans_mark ho hf).append ((Spells.intercalate h hb).closed hl hc)

/-- A member: its key, a colon with white space behind it, and its value. -/
theorem Spells.member {text : List Char} {ts : List Token} (key : String) (h : Spells text ts)
    (hs : ∀ d ∈ s, isBlank d = true) :
    Spells ((stringText key).toList ++ (':' :: s ++ text)) (.string key :: .colon :: ts) := by
  have colon : Scans .blank (':' :: s) [.colon] .blank := scans_mark rfl hs
  exact (scans_stringText key).append_spells (colon.append_spells h)

end Token

/-! ## Printed values -/

theorem spells_boolText (b : Bool) : Spells (boolText b).toList [.bool b] := by
  cases b <;> exact spells_word (by decide) (List.all_eq_true.1 rfl) (by decide)

theorem spells_null : Spells "null".toList [.null] :=
  spells_word (by decide) (List.all_eq_true.1 rfl) (by decide)

theorem spells_compact (x : Json) (h : x.isIntegral = true) : Spells x.compact.toList x.tokens := by
  induction x using parts_induction with
  | null => exact spells_null
  | bool b => exact spells_boolText b
  | number n => exact spells_number h
  | string s => exact (scans_stringText s).spells
  | array items ih =>
    rw [isIntegral_array_iff] at h
    have lines : List.Forall₂ Spells (items.map fun x => x.compact.toList) (items.map tokens) := by
      rw [List.forall₂_map_left_iff, List.forall₂_map_right_iff, List.forall₂_same]
      exact fun x hx => ih x hx (h x hx)
    have := scans_bracketed (o := '[') (c := ']') [] [] [] lines rfl rfl (by simp) (by simp)
      (by simp)
    simpa [compact, tokens, compactItems_eq, itemTokens_eq, Function.comp_def] using this.spells
  | object t ih =>
    rw [isIntegral_object_iff] at h
    have lines : List.Forall₂ Spells
        (t.toList.map fun e => (stringText e.1).toList ++ (':' :: [] ++ e.2.compact.toList))
        (t.toList.map fun e => .string e.1 :: .colon :: e.2.tokens) := by
      rw [List.forall₂_map_left_iff, List.forall₂_map_right_iff, List.forall₂_same]
      exact fun e he => Spells.member e.1 (ih e he (h e he)) (by simp)
    have := scans_bracketed (o := '\x7b') (c := '\x7d') [] [] [] lines rfl rfl (by simp) (by simp)
      (by simp)
    simpa [compact, tokens, compactMembers_eq, memberTokens_eq, Function.comp_def] using this.spells

theorem isBlank_of_mem_lineBreak {depth : Nat} {c : Char} (h : c ∈ (lineBreak depth).toList) :
    isBlank c = true := by
  simp only [lineBreak, String.toList_append, String.toList_ofList, List.mem_append] at h
  rcases h with h | h
  · obtain rfl : c = '\n' := by simpa using h
    rfl
  · obtain rfl := (List.mem_replicate.1 h).2
    rfl

/-- A block of lines is lines between brackets, also if there are none. -/
theorem spells_block {opening closing : String} {o c : Char} {t u : Token} {depth : Nat}
    {lines : List String} {tss : List (List Token)}
    (h : List.Forall₂ Spells (lines.map String.toList) tss) (ho : opening.toList = [o])
    (hc : closing.toList = [c]) (hu : ofPunctuation? o = some u) (ht : ofPunctuation? c = some t) :
    Spells (block opening closing depth lines).toList
      (u :: ([Token.comma].intercalate tss ++ [t])) := by
  unfold block
  split_ifs with empty
  · obtain rfl := List.isEmpty_iff.1 empty
    obtain rfl := List.forall₂_nil_left_iff.1 h
    rw [String.toList_append, ho, hc]
    exact (scans_bracketed [] [] [] .nil hu ht (by simp) (by simp) (by simp)).spells
  · have := scans_bracketed (lineBreak (depth + 1)).toList (lineBreak (depth + 1)).toList
      (lineBreak depth).toList h hu ht (fun _ => isBlank_of_mem_lineBreak) (fun _ => isBlank_of_mem_lineBreak)
      (fun _ => isBlank_of_mem_lineBreak)
    simpa [ho, hc] using this.spells

theorem spells_prettyAt (x : Json) (h : x.isIntegral = true) (depth : Nat) :
    Spells (x.prettyAt depth).toList x.tokens := by
  induction x using parts_induction generalizing depth with
  | null => exact spells_null
  | bool b => exact spells_boolText b
  | number n => exact spells_number h
  | string s => exact (scans_stringText s).spells
  | array items ih =>
    rw [isIntegral_array_iff] at h
    rw [prettyAt, tokens, prettyItems_eq, itemTokens_eq]
    refine spells_block ?_ rfl rfl rfl rfl
    rw [List.map_map, List.forall₂_map_left_iff, List.forall₂_map_right_iff, List.forall₂_same]
    exact fun x hx => ih x hx (h x hx) (depth + 1)
  | object t ih =>
    rw [isIntegral_object_iff] at h
    rw [prettyAt, tokens, prettyMembers_eq, memberTokens_eq]
    refine spells_block ?_ rfl rfl rfl rfl
    rw [List.map_map, List.forall₂_map_left_iff, List.forall₂_map_right_iff, List.forall₂_same]
    intro e he
    have value := ih e he (h e he) (depth + 1)
    simpa using Spells.member e.1 value (s := [' ']) (by simp [isBlank])

end ApiClients.Json
