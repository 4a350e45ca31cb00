import ApiClients.Json.Number

/-!
# Tokens of JSON text

A text is read from left to right, one character at a time; the mode says what the characters so far
belong to. A word is a longest run of letters, digits, signs and points: whether it is a literal, a
number or nothing at all is judged when it ends.
-/

namespace ApiClients.Json

/-- A token of JSON text. -/
inductive Token where
  | openArray
  | closeArray
  | openObject
  | closeObject
  | colon
  | comma
  | null
  | bool (b : Bool)
  | number (n : Number)
  | string (s : String)
deriving DecidableEq

namespace Token

/-- What the characters read so far belong to; texts are kept in reverse. -/
inductive Mode where
  | blank
  | word (before : List Char)
  | text (before : List Char)
  | escape (before : List Char)
  /-- In the four digits of a code unit, of which `count` are to come. After the first half of a
  surrogate pair, `high` is that half. -/
  | unit (before : List Char) (high : Option Nat) (count value : Nat)
  | pair (before : List Char) (high : Nat)
  | pairEscape (before : List Char) (high : Nat)
deriving DecidableEq

/-- Whether a character may stand between tokens. -/
def isBlank (c : Char) : Bool :=
  c == ' ' || c == '\t' || c == '\n' || c == '\r'

/-- Whether a character may stand in a word. -/
def isWordChar (c : Char) : Bool :=
  c.isAlphanum || c == '+' || c == '-' || c == '.'

/-- The token that a whole word spells. -/
def ofWord? (word : List Char) : Option Token :=
  if word = ['n', 'u', 'l', 'l'] then some .null
  else if word = ['t', 'r', 'u', 'e'] then some (.bool true)
  else if word = ['f', 'a', 'l', 's', 'e'] then some (.bool false)
  else (Number.ofChars? word).map .number

/-- The token that a single character makes. -/
def ofPunctuation? : Char → Option Token
  | '[' => some .openArray
  | ']' => some .closeArray
  | '\x7b' => some .openObject
  | '\x7d' => some .closeObject
  | ':' => some .colon
  | ',' => some .comma
  | _ => none

/-- The character that a backslash and this character stand for. -/
def ofEscape? : Char → Option Char
  | '"' => some '"'
  | '\\' => some '\\'
  | '/' => some '/'
  | 'b' => some '\x08'
  | 'f' => some '\x0c'
  | 'n' => some '\n'
  | 'r' => some '\r'
  | 't' => some '\t'
  | _ => none

/-- The value of a hexadecimal digit. -/
def hexValue? (c : Char) : Option Nat :=
  if '0' ≤ c ∧ c ≤ '9' then some (c.toNat - '0'.toNat)
  else if 'a' ≤ c ∧ c ≤ 'f' then some (c.toNat - 'a'.toNat + 10)
  else if 'A' ≤ c ∧ c ≤ 'F' then some (c.toNat - 'A'.toNat + 10)
  else none

/-- Whether a code unit is the first half of a surrogate pair. -/
def isHigh (n : Nat) : Bool :=
  0xd800 ≤ n && n < 0xdc00

/-- Whether a code unit is the second half of a surrogate pair. -/
def isLow (n : Nat) : Bool :=
  0xdc00 ≤ n && n < 0xe000

/-- The character that a surrogate pair encodes. -/
def ofPair (high low : Nat) : Char :=
  Char.ofNat (0x10000 + (high - 0xd800) * 0x400 + (low - 0xdc00))

/-- The mode after a whole code unit; half a pair alone is no character. -/
def Mode.afterUnit? (before : List Char) (high : Option Nat) (value : Nat) : Option Mode :=
  match high with
  | some h => if isLow value then some (.text (ofPair h value :: before)) else none
  | none =>
    if isHigh value then some (.pair before value)
    else if isLow value then none
    else some (.text (Char.ofNat value :: before))

/-- Reads a character between tokens: the tokens it completes, and the mode after it. -/
def Mode.start? (c : Char) : Option (List Token × Mode) :=
  if isBlank c then some ([], .blank)
  else if c = '"' then some ([], .text [])
  else if isWordChar c then some ([], .word [c])
  else (ofPunctuation? c).map fun t => ([t], .blank)

/-- Reads a character: the tokens it completes, and the mode after it. -/
def Mode.step? : Mode → Char → Option (List Token × Mode)
  | .blank, c => start? c
  | .word before, c =>
    if isWordChar c then
      some ([], .word (c :: before))
    else do
      let token ← ofWord? before.reverse
      let (tokens, mode) ← start? c
      return (token :: tokens, mode)
  | .text before, c =>
    if c = '"' then some ([.string (String.ofList before.reverse)], .blank)
    else if c = '\\' then some ([], .escape before)
    else if c < ' ' then none
    else some ([], .text (c :: before))
  | .escape before, c =>
    if c = 'u' then some ([], .unit before none 4 0)
    else (ofEscape? c).map fun x => ([], .text (x :: before))
  | .unit before high count value, c => do
    let digit ← hexValue? c
    if count ≤ 1 then
      let mode ← afterUnit? before high (16 * value + digit)
      return ([], mode)
    else
      return ([], .unit before high (count - 1) (16 * value + digit))
  | .pair before high, c => if c = '\\' then some ([], .pairEscape before high) else none
  | .pairEscape before high, c =>
    if c = 'u' then some ([], .unit before (some high) 4 0) else none

/-- The tokens that the end of the text completes. -/
def Mode.finish? : Mode → Option (List Token)
  | .blank => some []
  | .word before => (ofWord? before.reverse).map fun t => [t]
  | _ => none

/-- Reads a character after `before`, the tokens complete so far, last first. -/
def scanStep? (progress : List Token × Mode) (c : Char) : Option (List Token × Mode) := do
  let (before, mode) := progress
  let (tokens, next) ← mode.step? c
  return (tokens.reverse ++ before, next)

/-- The tokens of a text. -/
def ofText? (s : String) : Option (List Token) := do
  let (before, mode) ← s.toList.foldlM scanStep? ([], .blank)
  let last ← mode.finish?
  return before.reverse ++ last

end Token

end ApiClients.Json
