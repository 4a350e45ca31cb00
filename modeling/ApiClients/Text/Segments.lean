import ApiClients.Text.Alphabetic
import ApiClients.Text.Numeric

/-!
# Segments of a text

The words of a text are its longest runs of letters and numbers of any script. Everything about them
follows from one equation, `words_append_cons`: a text falls apart at each character between words.
-/

namespace ApiClients.Text

/-- Whether a character is alphabetic or numeric. -/
def isAlphanumeric (c : Char) : Bool :=
  isAlphabetic c || isNumeric c

/-- The pieces of a text between the characters that are not alphanumeric; pieces may be empty. -/
def segments : List Char → List (List Char)
  | [] => [[]]
  | c :: rest =>
    if isAlphanumeric c then
      match segments rest with
      | [] => [[c]]
      | piece :: pieces => (c :: piece) :: pieces
    else
      [] :: segments rest

/-- The words of a text in their order. -/
def words (s : List Char) : List (List Char) :=
  (segments s).filter (!·.isEmpty)

theorem segments_ne_nil (s : List Char) : segments s ≠ [] := by
  cases s with
  | nil => simp [segments]
  | cons c rest =>
    rw [segments]
    split
    · split <;> simp
    · simp

/-- A character that is not alphanumeric parts the pieces before it from those behind. -/
theorem segments_append_cons {c : Char} (hc : isAlphanumeric c = false) (x y : List Char) :
    segments (x ++ c :: y) = segments x ++ segments y := by
  induction x with
  | nil => simp [segments, hc]
  | cons d x ih =>
    rw [List.cons_append, segments, segments, ih]
    split
    · cases h : segments x with
      | nil => exact absurd h (segments_ne_nil x)
      | cons piece pieces => rfl
    · rfl

/-- Words end at every character that is not alphanumeric. -/
theorem words_append_cons {c : Char} (hc : isAlphanumeric c = false) (x y : List Char) :
    words (x ++ c :: y) = words x ++ words y := by
  rw [words, segments_append_cons hc, List.filter_append, words, words]

end ApiClients.Text
