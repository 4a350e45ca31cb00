import ApiClients.Json.Basic
import ApiClients.Text.Quoted

/-!
# Printing JSON

The compact form has no white space. The pretty form puts every item and every member on a line of
its own, two spaces further in than its container; empty containers stay on one line. In strings
only what must be escaped is escaped.
-/

namespace ApiClients.Json

/-- A code unit as an escape, with four hexadecimal digits. -/
def unitEscape (n : Nat) : String :=
  let digits := Text.hexDigits n
  "\\u" ++ String.ofList (List.replicate (4 - digits.length) '0') ++ digits

/-- One character of a string. -/
def escaped (c : Char) : String :=
  match c with
  | '"' => "\\\""
  | '\\' => "\\\\"
  | '\x08' => "\\b"
  | '\x0c' => "\\f"
  | '\n' => "\\n"
  | '\r' => "\\r"
  | '\t' => "\\t"
  | c => if c < ' ' then unitEscape c.toNat else c.toString

/-- A string between quotes. -/
def stringText (s : String) : String :=
  "\"" ++ String.join (s.toList.map escaped) ++ "\""

/-- The text of a truth value. -/
def boolText : Bool → String
  | true => "true"
  | false => "false"

/-! ### Compact form -/

mutual

/-- The text of a value without white space. -/
def compact : Json → String
  | null => "null"
  | bool b => boolText b
  | number n => n.text
  | string s => stringText s
  | array items => "[" ++ ",".intercalate (compactItems items) ++ "]"
  | object members => "\x7b" ++ ",".intercalate (compactMembers members) ++ "\x7d"

/-- The texts of items. -/
def compactItems : List Json → List String
  | [] => []
  | x :: xs => x.compact :: compactItems xs

/-- The texts of members. -/
def compactMembers {lo : Option String} : Members Json lo → List String
  | .nil => []
  | .cons k _ x rest => (stringText k ++ ":" ++ x.compact) :: compactMembers rest

end

/-! ### Pretty form -/

/-- A line break and the white space before a line at a depth. -/
def lineBreak (depth : Nat) : String :=
  "\n" ++ String.ofList (List.replicate (2 * depth) ' ')

/-- Lines of a container at a depth, between its brackets. -/
def block (opening closing : String) (depth : Nat) (lines : List String) : String :=
  if lines.isEmpty then
    opening ++ closing
  else
    opening ++ lineBreak (depth + 1) ++ ("," ++ lineBreak (depth + 1)).intercalate lines ++
      lineBreak depth ++ closing

mutual

/-- The text of a value over several lines, inside `depth` containers. -/
def prettyAt (depth : Nat) : Json → String
  | null => "null"
  | bool b => boolText b
  | number n => n.text
  | string s => stringText s
  | array items => block "[" "]" depth (prettyItems (depth + 1) items)
  | object members => block "\x7b" "\x7d" depth (prettyMembers (depth + 1) members)

/-- The texts of items inside `depth` containers. -/
def prettyItems (depth : Nat) : List Json → List String
  | [] => []
  | x :: xs => x.prettyAt depth :: prettyItems depth xs

/-- The texts of members inside `depth` containers. -/
def prettyMembers (depth : Nat) {lo : Option String} : Members Json lo → List String
  | .nil => []
  | .cons k _ x rest => (stringText k ++ ": " ++ x.prettyAt depth) :: prettyMembers depth rest

end

/-- The text of a value over several lines. -/
def pretty (j : Json) : String :=
  j.prettyAt 0

end ApiClients.Json
