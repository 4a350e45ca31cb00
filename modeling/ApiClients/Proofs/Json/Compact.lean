import ApiClients.Proofs.Json.Printing

/-!
# Compact text

The compact text of a value has no white space between its parts, and in its strings only what must be
escaped is escaped (`Compact`). Each value has one such text, the one that is printed (`compact_iff`).
-/

namespace ApiClients.Json

variable {c : Char} {text : String} {x : Json}

/-- How a character is written in a string. -/
inductive Escapes : Char → String → Prop where
  | quote : Escapes '"' "\\\""
  | backslash : Escapes '\\' "\\\\"
  | backspace : Escapes '\x08' "\\b"
  | formFeed : Escapes '\x0c' "\\f"
  | lineFeed : Escapes '\n' "\\n"
  | carriageReturn : Escapes '\r' "\\r"
  | tab : Escapes '\t' "\\t"
  | control {c : Char} (below : c < ' ') (unnamed : c ∉ ['\x08', '\x0c', '\n', '\r', '\t']) :
    Escapes c (String.ofList
      ['\\', 'u', '0', '0', Nat.digitChar (c.toNat / 16), Nat.digitChar (c.toNat % 16)])
  | plain {c : Char} (above : ¬ c < ' ') (not_quote : c ≠ '"') (not_backslash : c ≠ '\\') :
    Escapes c (String.singleton c)

/-- How a string is written: its characters between quotes. -/
inductive Quotes (s : String) : String → Prop where
  | mk {pieces : List String} (written : List.Forall₂ Escapes s.toList pieces) :
    Quotes s ("\"" ++ String.join pieces ++ "\"")

/-- How a value is written without white space. -/
inductive Compact : Json → String → Prop where
  | null : Compact null "null"
  | bool {b : Bool} : Compact (bool b) (if b then "true" else "false")
  | integer {n : Int} {bounded : -Int.pow 2 63 ≤ n ∧ n < Int.pow 2 64} :
    Compact (number (.integer n bounded)) (toString n)
  | float {negative : Bool} {magnitude : Binary64} :
    Compact (number (.float negative magnitude))
      ((if negative then "-" else "") ++ Number.magnitudeText magnitude)
  | string {s text : String} (quoted : Quotes s text) : Compact (string s) text
  | array {items : List Json} {texts : List String} (parts : List.Forall₂ Compact items texts) :
    Compact (array items) ("[" ++ ",".intercalate texts ++ "]")
  | object {members : Table Json} {keys values : List String}
    (quoted : List.Forall₂ Quotes members.keys keys)
    (parts : List.Forall₂ Compact members.values values) :
    Compact (object members)
      ("\x7b" ++ ",".intercalate (List.zipWith (fun k v => k ++ ":" ++ v) keys values) ++ "\x7d")

/-- A relation to one value for each item is a map. -/
theorem forall₂_iff_eq_map {α β : Type} {R : α → β → Prop} {f : α → β} {l : List α} {m : List β}
    (h : ∀ a ∈ l, ∀ b, R a b ↔ b = f a) : List.Forall₂ R l m ↔ m = l.map f := by
  induction l generalizing m with
  | nil => simp
  | cons a l ih =>
    rw [List.forall_mem_cons] at h
    cases m with
    | nil => simp
    | cons b m => rw [List.forall₂_cons, h.1, ih h.2, List.map_cons, List.cons.injEq]

theorem escaped_of_unnamed (quote : c ≠ '"') (backslash : c ≠ '\\')
    (unnamed : c ∉ ['\x08', '\x0c', '\n', '\r', '\t']) :
    escaped c = if c < ' ' then unitEscape c.toNat else c.toString := by
  simp only [List.mem_cons, List.not_mem_nil, or_false, not_or] at unnamed
  obtain ⟨backspace, form_feed, line_feed, carriage_return, tab⟩ := unnamed
  unfold escaped
  split <;> first | contradiction | rfl

theorem escapes_iff (c : Char) (text : String) : Escapes c text ↔ text = escaped c := by
  have digits (below : c < ' ') : unitEscape c.toNat = String.ofList
      ['\\', 'u', '0', '0', Nat.digitChar (c.toNat / 16), Nat.digitChar (c.toNat % 16)] :=
    String.toList_inj.1 ((Token.toList_unitEscape _ below).trans String.toList_ofList.symm)
  constructor
  · intro h
    cases h with
    | control below unnamed =>
      have quote : c ≠ '"' := by
        rintro rfl
        exact absurd below (by decide)
      have backslash : c ≠ '\\' := by
        rintro rfl
        exact absurd below (by decide)
      rw [escaped_of_unnamed quote backslash unnamed, if_pos below, digits below]
    | plain above quote backslash =>
      have unnamed : c ∉ ['\x08', '\x0c', '\n', '\r', '\t'] := by
        intro named
        simp only [List.mem_cons, List.not_mem_nil, or_false] at named
        rcases named with rfl | rfl | rfl | rfl | rfl <;> exact above (by decide)
      rw [escaped_of_unnamed quote backslash unnamed, if_neg above, Char.toString_eq_singleton]
    | _ => rfl
  · rintro rfl
    by_cases quote : c = '"'
    · exact quote ▸ .quote
    by_cases backslash : c = '\\'
    · exact backslash ▸ .backslash
    by_cases named : c ∈ ['\x08', '\x0c', '\n', '\r', '\t']
    · simp only [List.mem_cons, List.not_mem_nil, or_false] at named
      rcases named with rfl | rfl | rfl | rfl | rfl
      exacts [.backspace, .formFeed, .lineFeed, .carriageReturn, .tab]
    rw [escaped_of_unnamed quote backslash named]
    split_ifs with below
    · rw [digits below]
      exact .control below named
    · rw [Char.toString_eq_singleton]
      exact .plain below quote backslash

theorem quotes_iff (s text : String) : Quotes s text ↔ text = stringText s := by
  constructor
  · rintro ⟨written⟩
    rw [(forall₂_iff_eq_map fun c _ => escapes_iff c).1 written]
    rfl
  · rintro rfl
    exact .mk ((forall₂_iff_eq_map fun c _ => escapes_iff c).2 rfl)

theorem zipWith_members (t : Table Json) :
    List.zipWith (fun k v => k ++ ":" ++ v) (t.keys.map stringText) (t.values.map compact) =
      compactMembers t := by
  rw [compactMembers_eq, Members.keys, Members.values, List.map_map, List.map_map,
    List.zipWith_map_left, List.zipWith_map_right, List.zipWith_self]
  rfl

/-- A value has one compact text. -/
theorem compact_iff : Compact x text ↔ text = x.compact := by
  induction x using parts_induction generalizing text with
  | null =>
    constructor
    · rintro ⟨⟩
      rfl
    · rintro rfl
      exact .null
  | bool b =>
    have word : (if b then "true" else "false") = boolText b := by cases b <;> rfl
    rw [compact, ← word]
    constructor
    · rintro ⟨⟩
      rfl
    · rintro rfl
      exact .bool
  | number n =>
    constructor
    · rintro ⟨⟩ <;> rfl
    · rintro rfl
      cases n with
      | integer n bounded => exact .integer
      | float negative magnitude => exact .float
  | string s =>
    rw [compact, ← quotes_iff]
    constructor
    · rintro ⟨⟩
      assumption
    · exact .string
  | array items ih =>
    have lines (texts : List String) :
        List.Forall₂ Compact items texts ↔ texts = items.map compact :=
      forall₂_iff_eq_map fun y hy _ => ih y hy
    rw [compact, compactItems_eq]
    constructor
    · intro h
      cases h with
      | array parts => rw [(lines _).1 parts]
    · rintro rfl
      exact .array ((lines _).2 rfl)
  | object t ih =>
    have keys (texts : List String) :
        List.Forall₂ Quotes t.keys texts ↔ texts = t.keys.map stringText :=
      forall₂_iff_eq_map fun k _ => quotes_iff k
    have part : ∀ v ∈ t.values, ∀ text, Compact v text ↔ text = v.compact := by
      intro v hv text
      obtain ⟨e, he, rfl⟩ := List.mem_map.1 hv
      exact ih e he
    have values (texts : List String) :
        List.Forall₂ Compact t.values texts ↔ texts = t.values.map compact :=
      forall₂_iff_eq_map part
    rw [compact, ← zipWith_members]
    constructor
    · intro h
      cases h with
      | object quoted parts => rw [(keys _).1 quoted, (values _).1 parts]
    · rintro rfl
      exact .object ((keys _).2 rfl) ((values _).2 rfl)

end ApiClients.Json
