import MintDrop.Bytes

/-!
# Directories and files

A `Disk` is a tree of directories and regular files.  Paths are texts, resolved component by component as in
POSIX; operations fail with an `IoFault` and then change nothing.
-/

namespace MintDrop

/-- Why a file operation failed. -/
inductive IoFault
  | notFound
  | exists
  | notDirectory
  | isDirectory
  | nameTooLong
  /-- A failure that does not come from the tree. -/
  | other (reason : String)
  deriving DecidableEq

/-- The wording of a fault. -/
def IoFault.message : IoFault → String
  | .notFound => "No such file or directory (os error 2)"
  | .exists => "File exists (os error 17)"
  | .notDirectory => "Not a directory (os error 20)"
  | .isDirectory => "Is a directory (os error 21)"
  | .nameTooLong => "File name too long (os error 36)"
  | .other reason => reason

/-- A file system object. -/
inductive Node
  | file (content : Bytes)
  | directory
  deriving DecidableEq

/-- A place in the tree: the names from the root to it. -/
abbrev Place := List String

/-- A tree of directories and files, and the directory that relative paths start from. -/
structure Disk where
  nodes : List (Place × Node)
  home : Place
  deriving DecidableEq

/-- A path that continues another one, unless it starts at the root itself. -/
def joinPath (dir path : String) : String :=
  if path.startsWith '/' || dir.isEmpty then path
  else if dir.endsWith '/' then dir ++ path
  else dir ++ "/" ++ path

/-- The components of a path: what stands between its slashes. -/
def components (path : String) : List String := (path.toList.splitOn '/').map String.ofList

namespace Disk

/-- The most bytes of a file's name. -/
def maxName : Nat := 255

/-- The most bytes of a path. -/
def maxPath : Nat := 4095

/-! ### Places -/

/-- The object at a place; the root is a directory. -/
def node? (d : Disk) (place : Place) : Option Node :=
  if place.isEmpty then some .directory else d.nodes.lookup place

/-- The tree with an object at a place, or without one. -/
def setNode (d : Disk) (place : Place) (node : Option Node) : Disk :=
  { d with nodes := (node.map (place, ·)).toList ++ d.nodes.filter (·.1 ≠ place) }

/-- The place that path components lead to from a directory.  All but the last must lead to
directories; the last may name nothing, and may not name a file if a slash follows it. -/
def walk (d : Disk) : Place → List String → Except IoFault Place
  | current, [] => .ok current
  | current, name :: rest =>
      if name.isEmpty || name = "." then walk d current rest
      else if name = ".." then walk d current.dropLast rest
      else if maxName < name.utf8ByteSize then .error .nameTooLong
      else if rest.isEmpty then .ok (current ++ [name])
      else match d.node? (current ++ [name]) with
        | some .directory => walk d (current ++ [name]) rest
        | some (.file _) => .error .notDirectory
        | none => if rest.all (·.isEmpty) then .ok (current ++ [name]) else .error .notFound

/-- The place of a path. -/
def place (d : Disk) (path : String) : Except IoFault Place :=
  if '\x00' ∈ path.toList then .error (.other "file name contained an unexpected NUL byte")
  else if path.isEmpty then .error .notFound
  else if maxPath < path.utf8ByteSize then .error .nameTooLong
  else walk d (if path.startsWith '/' then [] else d.home) (components path)

/-! ### Questions -/

/-- The object that a path leads to. -/
def lookup (d : Disk) (path : String) : Option Node :=
  match d.place path with
  | .ok place => d.node? place
  | .error _ => none

/-- Whether a path leads to a regular file. -/
def isFile (d : Disk) (path : String) : Bool :=
  match d.lookup path with
  | some (.file _) => true
  | _ => false

/-- Whether a path leads to a directory. -/
def isDirectory (d : Disk) (path : String) : Bool := d.lookup path = some .directory

/-- The content of a regular file. -/
def read (d : Disk) (path : String) : Except IoFault Bytes := do
  match d.node? (← d.place path) with
  | some (.file content) => pure content
  | some .directory => throw .isDirectory
  | none => throw .notFound

/-! ### Changes -/

/-- The tree with a new directory. -/
def makeDirectory (d : Disk) (path : String) : Except IoFault Disk := do
  let place ← d.place path
  if (d.node? place).isSome then throw .exists
  pure (d.setNode place (some .directory))

/-- The path of the directory that holds what a path leads to. -/
def parentPath? (path : String) : Option String :=
  let names := components path
  match names.reverse.dropWhile (·.isEmpty) with
  | [] => none
  | _ :: rest =>
      let rest := rest.reverse
      if rest = [""] then some "/" else some ("/".intercalate rest)

/-- A directory made at a path, with the directories above it, as far as that succeeds: the fault,
if there is one, and the tree in any case. -/
def makeDirectories (d : Disk) : (steps : Nat) → (path : String) → Option IoFault × Disk
  | 0, _ => (some .notFound, d)
  | steps + 1, path =>
      if path.isEmpty then (none, d)
      else
        match d.makeDirectory path with
        | .ok d => (none, d)
        | .error .notFound =>
            match parentPath? path with
            | none => (some .notFound, d)
            | some parent =>
                match makeDirectories d steps parent with
                | (some fault, d) => (some fault, d)
                | (none, d) =>
                    match d.makeDirectory path with
                    | .ok d => (none, d)
                    | .error fault => (if d.isDirectory path then none else some fault, d)
        | .error fault => (if d.isDirectory path then none else some fault, d)

/-- The place of a path for a file; a path with a slash at its end is one for directories. -/
def filePlace (d : Disk) (path : String) : Except IoFault Place :=
  if path.endsWith '/' then .error .isDirectory else d.place path

/-- The tree with a file at a path, new or overwritten. -/
def write (d : Disk) (path : String) (content : Bytes) : Except IoFault Disk := do
  let place ← d.filePlace path
  match d.node? place with
  | some .directory => throw .isDirectory
  | _ => pure (d.setNode place (some (.file content)))

/-- The tree with a file at a path that leads to nothing yet. -/
def create (d : Disk) (path : String) (content : Bytes) : Except IoFault Disk := do
  let place ← d.filePlace path
  if (d.node? place).isSome then throw .exists
  pure (d.setNode place (some (.file content)))

/-- The tree with a file moved to a path, over the file that may be there. -/
def rename (d : Disk) (source target : String) : Except IoFault Disk := do
  let content ← d.read source
  let place ← d.filePlace target
  match d.node? place with
  | some .directory => throw .isDirectory
  | _ => pure ((d.setNode (← d.place source) none).setNode place (some (.file content)))

/-- The tree without the regular file that a path leads to. -/
def unlink (d : Disk) (path : String) : Disk :=
  match d.place path with
  | .error _ => d
  | .ok place =>
      match d.node? place with
      | some (.file _) => d.setNode place none
      | _ => d

/-- The tree without what a path leads to and what is below it. -/
def remove (d : Disk) (path : String) : Disk :=
  match d.place path with
  | .error _ => d
  | .ok place => { d with nodes := d.nodes.filter fun (p, _) => !place.isPrefixOf p }

/-! ### Listing -/

/-- The paths below a place, directories with a slash at the end, in ascending order. -/
def list (d : Disk) (base : Place) : List String :=
  let below := d.nodes.filterMap fun (place, node) =>
    if base.isPrefixOf place ∧ place ≠ base then
      let path := "/".intercalate (place.drop base.length)
      some (if node = .directory then path ++ "/" else path)
    else none
  below.mergeSort fun a b => a ≤ b

end Disk

end MintDrop
