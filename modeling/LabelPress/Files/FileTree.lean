import LabelPress.Fault
import LabelPress.Files.Path

/-!
# File trees

The files of a system, under the names that lead to them from its root. A path that does not start
at the root starts at a working directory, which lies in the tree as well. A directory is there when
it leads to a file, to the working directory, or when it is listed; none is ever made or removed.
What a system has besides, such as its devices, is listed too: a tree knows none of its own.
-/

namespace LabelPress.Files

/-- What stands under a list of names. -/
inductive Node (α : Type) where
  /-- A file with its content. -/
  | file (content : α)
  /-- A directory, and whether files can be made in it. -/
  | directory (making : Except Fault Unit)
  /-- A device, by what is read from it and by what it takes. It keeps nothing. -/
  | device (reading : Except Fault α) (writing : α → Except Fault Unit)

/-- The files of a system, each under the names that lead to it from the root. -/
structure FileTree (α : Type) where
  nodes : List (List Text × Node α)
  /-- The names that lead from the root to the working directory. -/
  working : List Text := []

/-- Where a path ends: at a directory, or at a file that may still be made. -/
inductive Target where
  | directory
  | file (names : List Text)
  deriving DecidableEq

namespace FileTree

variable {α : Type}

/-- What stands under a list of names. -/
def get? (tree : FileTree α) (names : List Text) : Option (Node α) :=
  (tree.nodes.find? fun entry => entry.1 = names).map Prod.snd

/-- Puts a file under a list of names. -/
def insert (tree : FileTree α) (names : List Text) (content : α) : FileTree α :=
  { tree with
    nodes := (tree.nodes.filter fun entry => entry.1 ≠ names) ++ [(names, .file content)] }

theorem get?_insert_self (tree : FileTree α) (names : List Text) (content : α) :
    (tree.insert names content).get? names = some (.file content) := by
  simp [get?, insert, List.find?_append, List.find?_eq_none.2]

theorem get?_insert_of_ne (tree : FileTree α) {names others : List Text} (content : α)
    (distinct : others ≠ names) : (tree.insert names content).get? others = tree.get? others := by
  simp only [get?, insert, List.find?_append, List.find?_filter]
  congr 1
  simp [Ne.symm distinct]
  grind

/-- Whether a list of names leads to a directory: to the working directory or part of the way there,
to a listed one, or part of the way to what is listed. -/
def hasDirectory (tree : FileTree α) (names : List Text) : Bool :=
  names.isPrefixOf tree.working ||
    tree.nodes.any fun entry => names.isPrefixOf entry.1 &&
      match entry.2 with
      | .directory _ => true
      | .file _ | .device _ _ => names.length < entry.1.length

/-- The most bytes in a name. -/
def longestName : Nat := 255

/-- The number of bytes from which a path is too long. -/
def pathLimit : Nat := 4096

/-- The name of the directory above. The root is above itself. -/
def upwards : Text := "..".toText

/-- Whether a name is longer than names can be. -/
def isTooLong (name : Text) : Bool :=
  match size? name with
  | some size => longestName < size
  | none => false

/-- Follows a name from one directory into another. -/
def enter (tree : FileTree α) (directory : List Text) (name : Text) : Except Fault (List Text) :=
  if name = upwards then .ok directory.dropLast
  else if isTooLong name then .error .fileUnusable
  else
    let names := directory ++ [name]
    if tree.hasDirectory names then .ok names
    else if (tree.get? names).isSome then .error .notDirectory
    else .error .fileMissing

/-- What the last name of a path stands for in a directory. -/
def targetIn (tree : FileTree α) (directory : List Text) (name : Text) : Except Fault Target :=
  if name = upwards then .ok .directory
  else if isTooLong name then .error .fileUnusable
  else
    let names := directory ++ [name]
    if tree.hasDirectory names then .ok .directory else .ok (.file names)

/-- Refuses a path that names nothing in any tree: one that has no encoding, that is too long, or that
holds a zero character. -/
def checkPath (path : Path) : Except Fault Unit := do
  let some size := size? path.toText | throw .notEncodable
  if path.toText.contains (.scalar '\x00') then throw .badValue
  if pathLimit ≤ size then throw .fileUnusable

/-- Follows a path to its end. -/
def follow (tree : FileTree α) (path : Path) : Except Fault Target :=
  match path.names.getLast? with
  | none => .ok .directory
  | some last => do
    let start := if path.root.isEmpty then tree.working else []
    tree.targetIn (← path.names.dropLast.foldlM tree.enter start) last

/-- Where a path ends. -/
def locate (tree : FileTree α) (path : Path) : Except Fault Target := do
  checkPath path
  tree.follow path

/-- The content of the file at a path. -/
def read (tree : FileTree α) (path : Path) : Except Fault α := do
  match ← tree.locate path with
  | .directory => throw .isDirectory
  | .file names =>
    match tree.get? names with
    | some (.file content) => return content
    | some (.device reading _) => reading
    | some (.directory _) => throw .isDirectory
    | none => throw .fileMissing

/-- Whether files can be made in a directory. One that is not listed allows it. -/
def making (tree : FileTree α) (directory : List Text) : Except Fault Unit :=
  match tree.get? directory with
  | some (.directory making) => making
  | _ => .ok ()

/-- Writes the file at a path, new or over an old one. -/
def write (tree : FileTree α) (path : Path) (content : α) : Except Fault (FileTree α) := do
  match ← tree.locate path with
  | .directory => throw .isDirectory
  | .file names =>
    match tree.get? names with
    | some (.file _) => return tree.insert names content
    | some (.device _ writing) =>
      writing content
      return tree
    | some (.directory _) => throw .isDirectory
    | none =>
      tree.making names.dropLast
      return tree.insert names content

end FileTree

end LabelPress.Files
