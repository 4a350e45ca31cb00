import ApiClients.Text.Segments
import ApiClients.Text.Uppercase

/-!
# Names of error classes

An error code gives its class a name: the words of the code, each with its first character in upper
case, are written without anything between them. A name that would not begin with a letter has
`Error` put before it, and a code without words gives no name.
-/

namespace ApiClients.ErrorClass

/-- A word with its first character in upper case. -/
def capitalized : List Char → List Char
  | [] => []
  | c :: rest => Text.capital c ++ rest

/-- The words of a code in upper case, joined. -/
def joined (code : List Char) : List Char :=
  (Text.words code).flatMap capitalized

/-- What a name that does not begin with a letter is given in front. -/
def leader : List Char := ['E', 'r', 'r', 'o', 'r']

/-- The characters of the class name for a code; none if the code has no word. -/
def nameChars (code : List Char) : List Char :=
  match joined code with
  | [] => []
  | c :: rest => if Text.isAlphabetic c then c :: rest else leader ++ c :: rest

/-- The class name for a code, if the code has a word. -/
def name? (code : String) : Option String :=
  match nameChars code.toList with
  | [] => none
  | name => some (String.ofList name)

end ApiClients.ErrorClass
