import ApiClients.Text.Utf8

/-!
# Paths

A path is made of bytes, which need not be text. Slashes cut it into components. A text stands for the
path with its bytes; as a text in turn a path can only be shown.
-/

namespace ApiClients

/-- The path of a file. -/
structure Path where
  bytes : List UInt8
deriving DecidableEq, Repr

namespace Path

/-- What stands between two slashes. -/
abbrev Component : Type := List UInt8

/-- The path in writing. -/
def ofText (s : String) : Path :=
  ⟨Text.bytes s⟩

instance : Coe String Path := ⟨ofText⟩

/-- What is shown of a path. -/
def display (p : Path) : String :=
  Text.shown p.bytes

instance : ToString Path := ⟨display⟩

instance : CoeHead Path String := ⟨display⟩

/-- Whether a path names nothing at all. -/
def isEmpty (p : Path) : Bool :=
  p.bytes.isEmpty

/-- The byte that cuts paths. -/
def slash : UInt8 := 0x2f

/-- The components of a path. -/
def components (p : Path) : List Component :=
  p.bytes.splitOn slash

/-- Whether a component leads to the directory it stands in. -/
def isIdle (component : Component) : Bool :=
  component == [] || component == Text.bytes "."

/-- Whether a component leads to the directory above. -/
def isUp (component : Component) : Bool :=
  component == Text.bytes ".."

end Path

end ApiClients
