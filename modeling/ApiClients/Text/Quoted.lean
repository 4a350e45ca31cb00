import ApiClients.Text.Printable

/-!
# Quoted text

Text between double quotes, as messages show it. A quote, a backslash, the line controls and NUL
have short escapes; every other character that would not show, or that would attach itself to the
character before it, is written by its code point in hexadecimal.
-/

namespace ApiClients.Text

/-- The digits of a number in base sixteen, in lower case and without leading zeros. -/
def hexDigits (n : Nat) : String :=
  String.ofList (Nat.toDigits 16 n)

/-- One character of a quoted text. -/
def quotedChar (c : Char) : String :=
  match c with
  | '"' => "\\\""
  | '\\' => "\\\\"
  | '\n' => "\\n"
  | '\r' => "\\r"
  | '\t' => "\\t"
  | '\x00' => "\\0"
  | c =>
    if isAttachedMark c || !isPrintable c then
      "\\u\x7b" ++ hexDigits c.toNat ++ "\x7d"
    else
      c.toString

/-- A text between double quotes. -/
def quoted (s : String) : String :=
  "\"" ++ String.join (s.toList.map quotedChar) ++ "\""

/-- A list of quoted texts between brackets. -/
def quotedList (l : List String) : String :=
  "[" ++ ", ".intercalate (l.map quoted) ++ "]"

end ApiClients.Text
