import ApiClients.Proofs.Text.Utf8
import ApiClients.Table.Lemmas
import Mathlib.Logic.Basic
import Mathlib.Tactic.ByContra
import Mathlib.Tactic.SplitIfs

/-!
# Texts in the order of their bytes

Texts are compared character by character. This is the order of their bytes in UTF-8
(`Text.lt_iff_bytes_lt`): of two characters the lesser one has the lesser bytes, at a place that both
encodings reach (`Text.encoding_append_lt`), so what follows them does not matter. Hence the words for
order that other statements use, `Text.Ascending` and `Text.Least`, are those of the order of bytes.
-/

namespace ApiClients.Text

/-- The bytes of the lesser of two characters come first, whatever follows the characters. -/
theorem encoding_append_lt {c d : Char} (h : c < d) (x y : List UInt8) :
    String.utf8EncodeChar c ++ x < String.utf8EncodeChar d ++ y := by
  have lt : c.val.toNat < d.val.toNat := h
  have hd : d.val.toNat < 0x110000 := by
    have := d.valid
    simp only [UInt32.isValidChar, Nat.isValidChar] at this
    omega
  unfold String.utf8EncodeChar
  generalize c.val.toNat = m at lt
  generalize d.val.toNat = n at lt hd
  -- The bytes hold the digits of a number to the base 64, of which the fourth is a small one.
  have hm₁ : m / 64 / 64 = m / 4096 := Nat.div_div_eq_div_mul ..
  have hm₂ : m / 4096 / 64 = m / 262144 := Nat.div_div_eq_div_mul ..
  have hm₃ : m / 262144 % 8 = m / 262144 := Nat.mod_eq_of_lt (by omega)
  have hn₁ : n / 64 / 64 = n / 4096 := Nat.div_div_eq_div_mul ..
  have hn₂ : n / 4096 / 64 = n / 262144 := Nat.div_div_eq_div_mul ..
  have hn₃ : n / 262144 % 8 = n / 262144 := Nat.mod_eq_of_lt (by omega)
  dsimp only
  split_ifs <;> try omega
  all_goals
    simp (disch := omega) only [List.cons_append, List.nil_append, List.cons_lt_cons_iff,
      UInt8.lt_iff_toNat_lt, ← UInt8.toNat_inj, toNat_byte]
    omega

/-- The bytes of the lesser of two sequences of characters come first. -/
theorem flatMap_encoding_lt {x y : List Char} (h : x < y) :
    x.flatMap String.utf8EncodeChar < y.flatMap String.utf8EncodeChar := by
  induction x generalizing y with
  | nil =>
    cases y with
    | nil => exact absurd h (List.lt_irrefl [])
    | cons d y =>
      obtain ⟨b, l, hb⟩ := List.exists_cons_of_ne_nil (String.utf8EncodeChar_ne_nil (c := d))
      rw [List.flatMap_nil, List.flatMap_cons, hb]
      exact List.nil_lt_cons ..
  | cons c x ih =>
    cases y with
    | nil => exact absurd h (List.not_lt_nil _)
    | cons d y =>
      rw [List.flatMap_cons, List.flatMap_cons]
      rcases List.cons_lt_cons_iff.1 h with lt | ⟨rfl, lt⟩
      · exact encoding_append_lt lt _ _
      · exact List.append_left_lt (ih lt)

/-- The order of texts is that of their bytes. -/
theorem lt_iff_bytes_lt (s t : String) : s < t ↔ bytes s < bytes t := by
  rw [bytes_eq_flatMap, bytes_eq_flatMap]
  refine ⟨fun h => flatMap_encoding_lt h, fun h => ?_⟩
  by_contra not_lt
  rcases eq_or_ne s t with rfl | ne
  · exact List.lt_irrefl _ h
  · have gt : t < s := Std.lt_of_le_of_ne (String.not_lt.1 not_lt) ne.symm
    exact List.lt_irrefl _ (List.lt_trans h (flatMap_encoding_lt gt))

/-! ### Ascending lists and least texts -/

/-- The texts stand in strictly ascending order of their bytes. -/
def Ascending (l : List String) : Prop :=
  l.Pairwise fun s t => bytes s < bytes t

/-- Of the texts with a property `s` is the one whose bytes come first. -/
def Least (p : String → Prop) (s : String) : Prop :=
  p s ∧ ∀ t, p t → t ≠ s → bytes s < bytes t

theorem ascending_iff {l : List String} : Ascending l ↔ l.Pairwise (· < ·) := by
  unfold Ascending
  simp only [lt_iff_bytes_lt]

theorem least_iff {p : String → Prop} {s : String} :
    Least p s ↔ p s ∧ ∀ t, p t → t ≠ s → s < t := by
  unfold Least
  simp only [lt_iff_bytes_lt]

/-- There is only one ascending list of the same texts. -/
theorem Ascending.eq_of_mem_iff {l m : List String} (hl : Ascending l) (hm : Ascending m)
    (h : ∀ s, s ∈ l ↔ s ∈ m) : l = m := by
  rw [ascending_iff] at hl hm
  have perm : l.Perm m := (List.perm_ext_iff_of_nodup (Members.nodup_of_pairwise hl)
    (Members.nodup_of_pairwise hm)).2 h
  exact perm.eq_of_pairwise (fun s t _ _ lt gt => absurd (String.lt_trans lt gt)
    (String.lt_irrefl s)) hl hm

/-- There is only one least text. -/
theorem Least.unique {p : String → Prop} {s t : String} (hs : Least p s) (ht : Least p t) :
    s = t := by
  by_contra ne
  have h₁ := hs.2 t ht.1 (Ne.symm ne)
  have h₂ := ht.2 s hs.1 ne
  exact List.lt_irrefl _ (List.lt_trans h₁ h₂)

end ApiClients.Text
