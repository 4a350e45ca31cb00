import ApiClients.Files

/-!
# File trees

Files in memory, below a working directory. A path is followed component by
component, and each step needs a directory to stand in: a path through a regular file, or with a
slash behind one, names nothing. What lies outside the working directory is not known and reads as
missing.
-/

namespace ApiClients

/-- What stands at a place in a file tree. -/
inductive FileTree.Node where
  | file (content : ByteArray)
  | directory

/-- Files and directories by the components of their places below the working directory; the
directories above a listed place need not be listed. Of a repeated place the last entry counts. -/
structure FileTree where
  entries : List (List Path.Component × FileTree.Node)

namespace FileTree

/-- The tree with these paths and what stands there. -/
def ofPaths (l : List (String × Node)) : FileTree :=
  ⟨l.map fun (path, node) => ((Path.ofText path).components.filter (!Path.isIdle ·), node)⟩

/-- What stands at a place. -/
def node? (t : FileTree) (place : List Path.Component) : Option Node :=
  match t.entries.reverse.lookup place with
  | some node => some node
  | none => if place.isEmpty || t.entries.any (place.isPrefixOf ·.1) then some .directory else none

/-- A place on the way along a path. -/
inductive Place where
  | inside (components : List Path.Component)
  | outside

/-- What stands at a place on the way. -/
def nodeAt? (t : FileTree) : Place → Option Node
  | .inside place => t.node? place
  | .outside => some .directory

/-- Goes from a directory to one of its entries; `none` if it is outside and not known. -/
def Place.enter? (component : Path.Component) : Place → Option Place
  | .inside place =>
    if Path.isIdle component then some (.inside place)
    else if Path.isUp component then
      if place.isEmpty then some .outside else some (.inside place.dropLast)
    else some (.inside (place ++ [component]))
  | .outside => if Path.isIdle component || Path.isUp component then some .outside else none

/-- Follows components from a place to what stands at their end. -/
def follow (t : FileTree) (place : Place) : List Path.Component → Except ReadFailure Node
  | [] =>
    match t.nodeAt? place with
    | some node => .ok node
    | none => .error .notFound
  | component :: rest =>
    match t.nodeAt? place with
    | none => .error .notFound
    | some (.file _) => .error .notADirectory
    | some .directory =>
      match place.enter? component with
      | some next => t.follow next rest
      | none => .error .notFound

/-- Where a path begins. -/
def origin (path : Path) : Place :=
  if path.bytes.head? = some Path.slash then .outside else .inside []

/-- The text of the file at a path. -/
def read (t : FileTree) : Files := fun path =>
  match t.follow (origin path) path.components with
  | .error failure => .error failure
  | .ok .directory => .error .isDirectory
  | .ok (.file content) =>
    match String.fromUTF8? content with
    | some text => .ok text
    | none => .error .invalidText

end FileTree

end ApiClients
