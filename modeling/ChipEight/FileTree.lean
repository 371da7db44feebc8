import ChipEight.Failure

/-!
# FileTree — the files a program can be read from

A tree of files and directories below a current directory.  A path is walked name by name; every name
but the last must lead to a directory, and so must the last one if a slash follows it.

* `FileTree.ofPaths` — a tree of files and directories by their paths;
* `FileTree.walk` — the place that a path leads to;
* `FileTree.read` — the bytes of the file at a path, or why there are none.
-/

namespace ChipEight

/-- What the tree holds under a path. -/
inductive FileNode where
  | file (bytes : List UInt8)
  | directory
deriving DecidableEq, Repr

/-- Files and directories by their paths, each a list of names. -/
structure FileTree where
  nodes : List (List String × FileNode)
deriving DecidableEq, Repr

/-- A place that a path leads to. -/
inductive FilePlace where
  /-- A directory of the tree, by the names that lead to it, the last one first. -/
  | inside (names : List String)
  /-- A directory above the tree, of which nothing else is known. -/
  | above
  | file (bytes : List UInt8)
deriving DecidableEq, Repr

namespace FileTree

/-- The names of a path. -/
def names (path : String) : List String :=
  (path.toList.splitOnP (· == '/')).map String.ofList

/-- One name on, below the current directory; the names so far come with the last one first. -/
def follow : List String → String → List String
  | path, "" | path, "." => path
  | path, ".." => path.tail
  | path, name => name :: path

/-- The names that lead to a path below the current directory. -/
def resolve (path : String) : List String :=
  ((names path).foldl follow []).reverse

/-- A file, or a directory for a path that ends in a slash, put into a tree. -/
def put (t : FileTree) (path : String) (bytes : List UInt8) : FileTree :=
  ⟨(resolve path, if path.endsWith "/" then .directory else .file bytes) :: t.nodes⟩

/-- A tree of files and directories by their paths; of two at one place the last one stays. -/
def ofPaths (files : List (String × List UInt8)) : FileTree :=
  files.foldl (fun t (path, bytes) => t.put path bytes) ⟨[]⟩

/-- What the tree holds under a path; a directory is there as soon as something lies below it. -/
def node? (t : FileTree) (path : List String) : Option FileNode :=
  match t.nodes.lookup path with
  | some node => some node
  | none =>
    if t.nodes.any fun (other, _) => path.isPrefixOf other then some .directory else none

/-- The most bytes a name may have. -/
def maxNameBytes : Nat := 255

/-- The most bytes a path may have. -/
def maxPathBytes : Nat := 4095

/-- One name on from a place. -/
def enter (t : FileTree) (place : FilePlace) (name : String) : Except FileFault FilePlace :=
  match place, name with
  | .file _, _ => .error .notADirectory
  | place, "" | place, "." => .ok place
  | .above, ".." | .inside [], ".." => .ok .above
  | .inside (_ :: rest), ".." => .ok (.inside rest)
  | .above, _ => .error (if maxNameBytes < name.utf8ByteSize then .nameTooLong else .noSuchFile)
  | .inside path, _ =>
    if maxNameBytes < name.utf8ByteSize then .error .nameTooLong
    else
      match t.node? (path.reverse ++ [name]) with
      | some (.file bytes) => .ok (.file bytes)
      | some .directory => .ok (.inside (name :: path))
      | none => .error .noSuchFile

/-- The place that a path leads to. -/
def walk (t : FileTree) (path : String) : Except FileFault FilePlace :=
  if path = "" then .error .noSuchFile
  else if maxPathBytes < path.utf8ByteSize then .error .nameTooLong
  else (names path).foldlM t.enter (if path.startsWith "/" then .above else .inside [])

/-- The bytes of the file at a path. -/
def bytesAt (t : FileTree) (path : String) : Except FileFault (List UInt8) := do
  match ← t.walk path with
  | .file bytes => return bytes
  | .inside _ | .above => throw .isADirectory

/-- The bytes of the file at a path; no name of a file holds the character NUL. -/
def read (t : FileTree) (path : String) : Except Failure (List UInt8) :=
  if path.toList.contains '\x00' then .error .nulInName
  else
    match t.bytesAt path with
    | .ok bytes => .ok bytes
    | .error fault => .error (.file path fault)

end FileTree

end ChipEight
