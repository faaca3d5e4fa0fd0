import SpokeSim.File

/-!
# Trees of files

Files that are kept in memory: a `FileTree` is a file with a text or a directory with names, and a
path is walked from the root or from the directory in which the walk begins.

* `FilePlace.reach`: what is at a path.
* `FilePlace.read`: the text of the file at a path.
* `FilePlace.create`: whether a file can be made at a path, or emptied if it is there.

On the way each name must be found in a directory; a slash at the end of a path asks for one too.
-/

namespace SpokeSim

/-- A file, or a directory with what is in it. -/
inductive FileTree where
  | file (text : String)
  | directory (entries : List (String × FileTree))
deriving Inhabited

namespace FileTree

/-- Whether something is a directory. -/
def isDirectory : FileTree → Bool
  | directory _ => true
  | file _ => false

end FileTree

/-- A place in a tree: what is there, and the directories above it, the nearest one first. -/
structure FilePlace where
  tree : FileTree
  above : List FileTree := []
deriving Inhabited

namespace FilePlace

/-! ## Walking -/

/-- A path has fewer bytes than this. -/
def pathLimit : Nat := 4096

/-- A name has at most this many bytes. -/
def nameLimit : Nat := 255

/-- The place at the root of the tree. -/
def root (p : FilePlace) : FilePlace := ⟨p.above.getLastD p.tree, []⟩

/-- Go up to the directory above; the root is above itself. -/
def up (p : FilePlace) : FilePlace :=
  match p.above with
  | [] => p
  | t :: ts => ⟨t, ts⟩

/-- Go from a directory to a name in it. -/
def step (p : FilePlace) (name : String) : Except FileFault FilePlace :=
  match p.tree with
  | .file _ => .error .notDirectory
  | .directory entries =>
    if name = "" ∨ name = "." then .ok p
    else if name = ".." then .ok p.up
    else if name.utf8ByteSize > nameLimit then .error .tooLong
    else
      match entries.lookup name with
      | some t => .ok ⟨t, p.tree :: p.above⟩
      | none => .error .notFound

/-- Walk along names. -/
def walk (p : FilePlace) (names : List String) : Except FileFault FilePlace := names.foldlM step p

/-- Whether a path can be walked at all. -/
def checkPath (path : String) : Except FileFault Unit :=
  if path.toList.contains '\x00' then .error .zeroInPath
  else if path = "" then .error .notFound
  else if path.utf8ByteSize ≥ pathLimit then .error .tooLong
  else .ok ()

/-- Where the walk along a path begins: at the root if the path begins with a slash. -/
def start (p : FilePlace) (path : String) : FilePlace :=
  if path.toList.head? = some '/' then p.root else p

/-- The place at a path. -/
def reach (p : FilePlace) (path : String) : Except FileFault FilePlace := do
  checkPath path
  (p.start path).walk (path.splitOn "/")

/-! ## Use -/

/-- The text of the file at a path. -/
def read (p : FilePlace) (path : String) : Except FileFault String := do
  match (← p.reach path).tree with
  | .file text => return text
  | .directory _ => throw .isDirectory

/-- Whether a file can be made at a path, or emptied if it is there: its directory must be there,
and the path must end in a name that is no directory's. -/
def create (p : FilePlace) (path : String) : Except FileFault Unit := do
  checkPath path
  let names := (path.splitOn "/").filter (· ≠ "")
  let place ← (p.start path).walk names.dropLast
  if !place.tree.isDirectory then throw .notDirectory
  match names.getLast? with
  | none => throw .isDirectory
  | some name =>
    if path.toList.getLast? = some '/' then throw .isDirectory
    match place.step name with
    | .ok place => if place.tree.isDirectory then throw .isDirectory
    | .error .notFound => return ()
    | .error f => throw f

end FilePlace

end SpokeSim
