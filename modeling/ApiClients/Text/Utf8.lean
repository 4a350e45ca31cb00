/-!
# Texts as bytes

A text stands for its bytes in UTF-8. Not all bytes are text; what is shown of other bytes has a
replacement character for each longest beginning of a character that is not completed.
-/

namespace ApiClients.Text

/-- The bytes of a text. -/
def bytes (s : String) : List UInt8 :=
  s.toUTF8.data.toList

/-- The text with these bytes, if there is one. -/
def ofBytes? (l : List UInt8) : Option String :=
  String.fromUTF8? ⟨l.toArray⟩

/-- Least and greatest values of the bytes that belong to a character behind its first byte. There are
none for a byte that is a character of its own, and for a byte that begins no character. -/
def followers (first : UInt8) : List (UInt8 × UInt8) :=
  let tail := (0x80, 0xbf)
  if first < 0xc2 then []
  else if first < 0xe0 then [tail]
  else if first = 0xe0 then [(0xa0, 0xbf), tail]
  else if first = 0xed then [(0x80, 0x9f), tail]
  else if first < 0xf0 then [tail, tail]
  else if first = 0xf0 then [(0x90, 0xbf), tail, tail]
  else if first < 0xf4 then [tail, tail, tail]
  else if first = 0xf4 then [(0x80, 0x8f), tail, tail]
  else []

/-- Cuts bytes where no character goes on. The bytes of `piece`, the last one first, have been read
since the last cut, and `due` is what the character that they begin may go on with. -/
def pieces (due : List (UInt8 × UInt8)) (piece : List UInt8) : List UInt8 → List (List UInt8)
  | [] => [piece.reverse]
  | b :: rest =>
    match due with
    | (low, high) :: due =>
      if low ≤ b && b ≤ high then pieces due (b :: piece) rest
      else piece.reverse :: pieces (followers b) [b] rest
    | [] => piece.reverse :: pieces (followers b) [b] rest

/-- What is shown of a piece. -/
def shownPiece (piece : List UInt8) : String :=
  (ofBytes? piece).getD "\uFFFD"

/-- What is shown of bytes. -/
def shown (l : List UInt8) : String :=
  String.join ((pieces [] [] l).map shownPiece)

end ApiClients.Text
