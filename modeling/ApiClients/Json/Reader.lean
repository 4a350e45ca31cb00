import ApiClients.Json.Basic
import ApiClients.Json.Token

/-!
# Reading JSON text

The reader keeps a stack of the arrays and objects that are open and handles one token at a time.
The number of open containers is limited; text that nests deeper is refused.
-/

namespace ApiClients.Json

/-- An open container, with what it holds before the value that is being read, last first. -/
inductive Frame where
  | array (before : List Json)
  | object (before : List (String × Json)) (key : String)

/-- How far the reader has come, with the stack of open containers. -/
inductive Progress where
  | value (stack : List Frame)
  | arrayOpened (stack : List Frame)
  | objectOpened (stack : List Frame)
  | key (before : List (String × Json)) (stack : List Frame)
  | colon (before : List (String × Json)) (key : String) (stack : List Frame)
  | complete (v : Json) (stack : List Frame)

/-- The number of containers that may be open at once in the text of a description or a setting. -/
def maxDepth : Nat := 127

namespace Progress

/-- Reads the first token of a value, inside the containers of the stack. -/
def start? (limit : Nat) (stack : List Frame) : Token → Option Progress
  | .null => some (complete .null stack)
  | .bool b => some (complete (.bool b) stack)
  | .number n => some (complete (.number n) stack)
  | .string s => some (complete (.string s) stack)
  | .openArray => if stack.length < limit then some (arrayOpened stack) else none
  | .openObject => if stack.length < limit then some (objectOpened stack) else none
  | _ => none

/-- Reads a token. -/
def step? (limit : Nat) : Progress → Token → Option Progress
  | value stack, t => start? limit stack t
  | arrayOpened stack, .closeArray => some (complete (.array []) stack)
  | arrayOpened stack, t => start? limit (.array [] :: stack) t
  | objectOpened stack, .closeObject => some (complete (.ofMembers []) stack)
  | objectOpened stack, .string k => some (colon [] k stack)
  | key before stack, .string k => some (colon before k stack)
  | colon before k stack, .colon => some (value (.object before k :: stack))
  | complete v (.array before :: stack), .comma => some (value (.array (v :: before) :: stack))
  | complete v (.array before :: stack), .closeArray =>
    some (complete (.array (v :: before).reverse) stack)
  | complete v (.object before k :: stack), .comma => some (key ((k, v) :: before) stack)
  | complete v (.object before k :: stack), .closeObject =>
    some (complete (.ofMembers ((k, v) :: before).reverse) stack)
  | _, _ => none

/-- Reads tokens to their end. -/
def run? (limit : Nat) (p : Progress) (tokens : List Token) : Option Progress :=
  tokens.foldlM (step? limit) p

/-- The value, if it is complete and no container is open. -/
def result? : Progress → Option Json
  | complete v [] => some v
  | _ => none

end Progress

/-- The value that tokens spell, with at most `limit` containers open at once. -/
def ofTokens? (limit : Nat) (tokens : List Token) : Option Json :=
  (Progress.run? limit (.value []) tokens).bind Progress.result?

/-- Reads a text as one value, with at most `limit` containers open at once. -/
def readWithin? (limit : Nat) (s : String) : Option Json :=
  (Token.ofText? s).bind (ofTokens? limit)

/-- Reads a text as one value; deep nesting is refused. -/
def read? (s : String) : Option Json :=
  readWithin? maxDepth s

end ApiClients.Json
