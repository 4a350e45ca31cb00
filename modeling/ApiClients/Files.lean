import ApiClients.Path

/-!
# Files

What a program knows of files: for each path either the text of the file there, or why there is none.
-/

namespace ApiClients

/-- Why a file cannot be read as text. -/
inductive ReadFailure where
  | notFound
  | isDirectory
  | notADirectory
  | invalidText
  | refused (reason : String)
deriving DecidableEq, Repr

/-- The wording of a failure to read. -/
def ReadFailure.message : ReadFailure → String
  | .notFound => "No such file or directory (os error 2)"
  | .isDirectory => "Is a directory (os error 21)"
  | .notADirectory => "Not a directory (os error 20)"
  | .invalidText => "stream did not contain valid UTF-8"
  | .refused reason => reason

/-- The texts of files by their paths. -/
abbrev Files : Type := Path → Except ReadFailure String

end ApiClients
