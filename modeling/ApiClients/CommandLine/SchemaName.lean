import ApiClients.Path
import ApiClients.Text.Uppercase

/-!
# Service names from paths

A service without a name of its own is named after its file: the file's name up to the first dot,
with the first character in upper case and underscores for hyphens. The name of the file must be text,
in all of it.
-/

namespace ApiClients.CommandLine

/-- The last component of a path, unless it leads to a directory by its form. Slashes at the end do
not count, and neither do dots that stand for the directory they are in. -/
def fileName? (path : Path) : Option Path.Component :=
  match (path.components.filter (!Path.isIdle ·)).getLast? with
  | some component => if Path.isUp component then none else some component
  | none => none

/-- The characters before the first dot. -/
def stem (name : List Char) : List Char :=
  name.takeWhile (· != '.')

/-- The service name that a stem gives. -/
def nameOfStem : List Char → List Char
  | [] => []
  | c :: rest => (Text.capital c ++ rest).map fun c => if c = '-' then '_' else c

/-- The service name that a path gives, if it gives one. -/
def nameOfPath? (path : Path) : Option String :=
  match ((fileName? path).bind Text.ofBytes?).map fun name => stem name.toList with
  | none => none
  | some [] => none
  | some s => some (String.ofList (nameOfStem s))

/-- The name for a service described at a path: the one that is given, or else that of the path. -/
def serviceName? (path : Path) (given : Option String) : Option String :=
  match given with
  | some name => some name
  | none => nameOfPath? path

end ApiClients.CommandLine
