import ApiClients.Text.Utf8
import Mathlib.Data.List.Forall2
import Mathlib.Data.List.TakeWhile
import Mathlib.Tactic.SplitIfs

/-!
# Texts and their bytes

What the bytes of a text say about its characters. A text is known by its bytes (`ofBytes?_eq_some_iff`), and
a character of ASCII can be looked for among them (`takeWhile_bytes`): it has one byte, which is no part of
another character. A text is shown as it is (`shown_bytes`), as its bytes are cut between its characters.
-/

namespace ApiClients.Text

variable {s t : String} {l : List UInt8}

theorem bytes_eq_flatMap (s : String) : bytes s = s.toList.flatMap String.utf8EncodeChar := by
  unfold bytes
  rw [String.toUTF8_eq_toByteArray, ← String.utf8Encode_toList, List.utf8Encode]
  simp

theorem ofBytes?_eq_some_iff : ofBytes? l = some s ↔ l = bytes s := by
  unfold ofBytes? String.fromUTF8? bytes
  constructor
  · intro h
    split at h
    · cases h
      rfl
    · exact nomatch h
  · rintro rfl
    exact dif_pos s.isValidUTF8

theorem bytes_inj : bytes s = bytes t ↔ s = t := by
  refine ⟨fun h => ?_, congrArg bytes⟩
  have read : ofBytes? (bytes s) = some s := ofBytes?_eq_some_iff.2 rfl
  exact Option.some.inj (read.symm.trans (ofBytes?_eq_some_iff.2 h))

/-! ## Characters of ASCII -/

/-- A byte of an encoding holds what is put into it. -/
theorem toNat_byte {n : Nat} (h : n < 256) : (UInt8.ofNat n).toNat = n := by
  rw [UInt8.toNat_ofNat', Nat.mod_eq_of_lt h]

/-- A byte below 128 is all of a character. -/
theorem toNat_of_mem_encoding {c : Char} {b : UInt8} (there : b ∈ String.utf8EncodeChar c)
    (small : b.toNat < 128) : c.toNat = b.toNat := by
  show c.val.toNat = b.toNat
  unfold String.utf8EncodeChar at there
  generalize c.val.toNat = n at there
  dsimp only at there
  split_ifs at there <;>
    simp (disch := omega) only [List.mem_cons, List.not_mem_nil, or_false, ← UInt8.toNat_inj,
      toNat_byte] at there <;>
    omega

theorem encoding_of_ascii {c : Char} (ascii : c.toNat < 128) :
    String.utf8EncodeChar c = [UInt8.ofNat c.toNat] :=
  if_pos (Nat.le_of_lt_succ ascii)

theorem mem_encoding_iff {mark c : Char} (ascii : mark.toNat < 128) :
    UInt8.ofNat mark.toNat ∈ String.utf8EncodeChar c ↔ c = mark := by
  have byte : (UInt8.ofNat mark.toNat).toNat = mark.toNat := toNat_byte (by omega)
  constructor
  · intro there
    have eq := toNat_of_mem_encoding there (by omega)
    exact Char.toNat_inj.1 (eq.trans byte)
  · rintro rfl
    rw [encoding_of_ascii ascii]
    exact List.mem_singleton_self _

/-- The bytes before the first one of a character of ASCII are the text before the character. -/
theorem takeWhile_bytes {mark : Char} (ascii : mark.toNat < 128) (s : String) :
    (bytes s).takeWhile (· != UInt8.ofNat mark.toNat) =
      bytes (String.ofList (s.toList.takeWhile (· != mark))) := by
  rw [bytes_eq_flatMap, bytes_eq_flatMap, String.toList_ofList]
  induction s.toList with
  | nil => rfl
  | cons c rest ih =>
    rw [List.flatMap_cons]
    by_cases here : c = mark
    · subst here
      rw [encoding_of_ascii ascii, List.takeWhile_cons_of_neg (by simp), List.singleton_append,
        List.takeWhile_cons_of_neg (by simp), List.flatMap_nil]
    · have passed : ∀ b ∈ String.utf8EncodeChar c, (b != UInt8.ofNat mark.toNat) = true :=
        fun b hb => bne_iff_ne.2 fun eq => here ((mem_encoding_iff ascii).1 (eq ▸ hb))
      rw [List.takeWhile_append_of_pos passed, ih]
      simp [here]

/-! ## What is shown -/

/-- A byte lies in a range. -/
def Within (range : UInt8 × UInt8) (b : UInt8) : Prop :=
  range.1 ≤ b ∧ b ≤ range.2

/-- What is due is read without a cut. -/
theorem pieces_append {due : List (UInt8 × UInt8)} (h : List.Forall₂ Within due l)
    (piece rest : List UInt8) : pieces due piece (l ++ rest) = pieces [] (l.reverse ++ piece) rest := by
  induction h generalizing piece with
  | nil => rfl
  | @cons range b due l within _ ih =>
    have fits : (decide (range.1 ≤ b) && decide (b ≤ range.2)) = true := by
      simpa [Within] using within
    rw [List.cons_append, pieces, if_pos fits, ih, List.reverse_cons, List.append_assoc]
    rfl

theorem within_iff {range : UInt8 × UInt8} {n : Nat} (h : n < 256) :
    Within range (UInt8.ofNat n) ↔ range.1.toNat ≤ n ∧ n ≤ range.2.toNat := by
  rw [Within, UInt8.le_iff_toNat_le, UInt8.le_iff_toNat_le, toNat_byte h]

/-- Behind the first byte stand digits to the base 64. -/
theorem within_digit (n : Nat) : Within (0x80, 0xbf) (UInt8.ofNat (n % 64 + 128)) := by
  rw [within_iff (by omega)]
  simp only [UInt8.reduceToNat]
  omega

theorem followers_one : ∀ n ≤ 127, followers (UInt8.ofNat n) = [] := by
  decide

theorem followers_two : ∀ n < 32, 2 ≤ n → followers (UInt8.ofNat (n + 192)) = [(0x80, 0xbf)] := by
  decide

theorem followers_three : ∀ n < 16, followers (UInt8.ofNat (n + 224)) =
    [if n = 0 then (0xa0, 0xbf) else if n = 13 then (0x80, 0x9f) else (0x80, 0xbf),
      (0x80, 0xbf)] := by
  decide

theorem followers_four : ∀ n < 5, followers (UInt8.ofNat (n + 240)) =
    [if n = 0 then (0x90, 0xbf) else if n = 4 then (0x80, 0x8f) else (0x80, 0xbf),
      (0x80, 0xbf), (0x80, 0xbf)] := by
  decide

/-- A character has a first byte, and then the bytes that belong to it. -/
theorem encoding_cases (c : Char) : ∃ b l, String.utf8EncodeChar c = b :: l ∧
    List.Forall₂ Within (followers b) l := by
  have valid : c.val.toNat < 0xd800 ∨ 0xdfff < c.val.toNat ∧ c.val.toNat < 0x110000 := c.valid
  unfold String.utf8EncodeChar
  generalize c.val.toNat = n at valid
  dsimp only
  -- The range of the second byte excludes what has a shorter form, and the halves of surrogate pairs.
  split_ifs with one two three
  · refine ⟨_, _, rfl, ?_⟩
    rw [followers_one n one]
    exact .nil
  · refine ⟨_, _, rfl, ?_⟩
    rw [followers_two _ (by omega) (by omega)]
    exact .cons (within_digit n) .nil
  · refine ⟨_, _, rfl, ?_⟩
    rw [followers_three _ (by omega)]
    refine .cons ?_ (.cons (within_digit n) .nil)
    rw [within_iff (by omega)]
    split_ifs <;> simp only [UInt8.reduceToNat] <;> omega
  · refine ⟨_, _, rfl, ?_⟩
    rw [followers_four _ (by omega)]
    refine .cons ?_ (.cons (within_digit (n / 64)) (.cons (within_digit n) .nil))
    rw [within_iff (by omega)]
    split_ifs <;> simp only [UInt8.reduceToNat] <;> omega

theorem pieces_encoding (c : Char) (piece rest : List UInt8) :
    pieces [] piece (String.utf8EncodeChar c ++ rest) =
      piece.reverse :: pieces [] (String.utf8EncodeChar c).reverse rest := by
  obtain ⟨b, l, eq, within⟩ := encoding_cases c
  rw [eq, List.cons_append, pieces, pieces_append within, List.reverse_cons]

theorem pieces_flatMap (chars : List Char) (piece : List UInt8) :
    pieces [] piece (chars.flatMap String.utf8EncodeChar) =
      piece.reverse :: chars.map String.utf8EncodeChar := by
  induction chars generalizing piece with
  | nil => rfl
  | cons c chars ih =>
    rw [List.flatMap_cons, pieces_encoding, ih, List.reverse_reverse, List.map_cons]

theorem shownPiece_bytes (s : String) : shownPiece (bytes s) = s := by
  rw [shownPiece, ofBytes?_eq_some_iff.2 rfl, Option.getD_some]

theorem shownPiece_encoding (c : Char) :
    shownPiece (String.utf8EncodeChar c) = String.singleton c := by
  have text : String.utf8EncodeChar c = bytes (String.singleton c) := by simp [bytes_eq_flatMap]
  rw [text, shownPiece_bytes]

/-- A text is shown as it is. -/
theorem shown_bytes (s : String) : shown (bytes s) = s := by
  have nothing : shownPiece [] = "" := shownPiece_bytes ""
  have chars : (s.toList.map String.utf8EncodeChar).map shownPiece = s.toList.map String.singleton := by
    rw [List.map_map]
    exact List.map_congr_left fun c _ => shownPiece_encoding c
  rw [shown, bytes_eq_flatMap, pieces_flatMap, List.map_cons, List.reverse_nil, nothing, chars,
    ← String.toList_inj]
  simp [String.toList_join, List.flatMap_map]

end ApiClients.Text
