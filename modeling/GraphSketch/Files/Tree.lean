import GraphSketch.Files.Path
import GraphSketch.OrderedMap
import GraphSketch.Text.Quoted

/-!
# File trees

A file tree holds directories and the texts of files, each at its location: the names that lead to
it from the directory in which the program works. The root and the directories above that one are
there too, but nothing is known of what they hold.

* `FileTree.locate` follows a path to a location, name by name; `FileTree.enter` is one step of
  that, and two dots lead back.
* `FileTree.read`, `FileTree.write` and `FileTree.makeDirs` work on paths and say what is wrong
  when they cannot: a `FileFault` has the number and the words that the system has for it.
* `FileTree.find?` is what is at the end of a path, and `FileTree.list` gives the names in a
  directory.

A write replaces the whole text of a file. Names and paths that are too long are refused, by the
limits that are common on such systems; permissions, links, full disks and other programs at work
are left out, and all files hold texts.
-/

set_option autoImplicit false

namespace GraphSketch

/-- The names that lead to a file or a directory. Above the working directory they begin with
two dots, and outside of it with the name of the root. -/
abbrev Location := List Text

/-- Directories and files. -/
structure FileTree where
  dirs : List Location
  files : OrderedMap Location Text
  deriving DecidableEq, Repr

/-- Why a file or directory cannot be used. -/
inductive FileProblem where
  | notFound
  | taken
  | notADirectory
  | isADirectory
  | nameTooLong
  /-- The path holds the null character. -/
  | nullCharacter
  deriving DecidableEq, Repr

/-- A path that cannot be used. -/
structure FileFault where
  problem : FileProblem
  path : Path
  deriving DecidableEq, Repr

/-- The fault in words. -/
def FileFault.message (fault : FileFault) : Text :=
  let about (t : Text) : Text := t ++ ": " ++ fault.path.toText.quoted
  match fault.problem with
  | .notFound => about "[Errno 2] No such file or directory"
  | .taken => about "[Errno 17] File exists"
  | .notADirectory => about "[Errno 20] Not a directory"
  | .isADirectory => about "[Errno 21] Is a directory"
  | .nameTooLong => about "[Errno 36] File name too long"
  | .nullCharacter => "embedded null byte"

/-- What a path may lead to. -/
inductive FileEntry where
  | file (t : Text)
  | dir
  deriving DecidableEq, Repr

namespace FileTree

/-- No files, and only the directory in which the program works and those above it. -/
def empty : FileTree := ⟨[], []⟩

/-! ## Locations -/

/-- The name of the root. -/
def rootName : Text := ['/']

/-- The name that leads back to the directory above. -/
def upName : Text := ['.', '.']

/-- Whether the location is in the working directory. -/
def isInside (location : Location) : Bool :=
  location.head? ≠ some rootName && location.head? ≠ some upName

/-- Whether the location is the working directory, one above it, or the root. -/
def isAncestor (location : Location) : Bool :=
  location.all fun name => name = rootName || name = upName

/-- Whether a directory is at the location. -/
def isDirAt (tree : FileTree) (location : Location) : Bool :=
  isAncestor location || tree.dirs.contains location

/-- The text of the file at the location. -/
def fileAt? (tree : FileTree) (location : Location) : Option Text := tree.files.get? location

/-- The location of the directory above. -/
def above (location : Location) : Location :=
  if location = [rootName] then location
  else if isAncestor location then location ++ [upName]
  else location.dropLast

/-- The number of bytes that a text takes. -/
def byteCount (t : Text) : Nat := t.foldl (fun n c => n + c.utf8Size) 0

/-- The largest number of bytes in a name. -/
def nameLimit : Nat := 255

/-- The largest number of bytes in a path. -/
def pathLimit : Nat := 4095

/-- Goes on from a directory by one name; two dots lead back. -/
def enter (tree : FileTree) (location : Location) (name : Text) : Except FileProblem Location :=
  if tree.isDirAt location then
    if name = upName then .ok (above location)
    else if nameLimit < byteCount name then .error .nameTooLong
    else .ok (location ++ [name])
  else if (tree.fileAt? location).isSome then
    .error .notADirectory
  else
    .error .notFound

/-- The location to which a path leads. All that comes before its last name has to be there. -/
def locate (tree : FileTree) (path : Path) : Except FileProblem Location :=
  if path.toText.any (· = '\x00') then .error .nullCharacter
  else if pathLimit < byteCount path.toText then .error .nameTooLong
  else path.names.foldlM tree.enter (if path.root.isEmpty then [] else [rootName])

/-! ## Reading and writing -/

/-- What a path leads to, if anything. That nothing is there is no fault, unless the path is too
long to tell. -/
def find? (tree : FileTree) (path : Path) : Except FileFault (Option FileEntry) :=
  match tree.locate path with
  | .ok location =>
    if tree.isDirAt location then .ok (some .dir)
    else .ok ((tree.fileAt? location).map .file)
  | .error .nameTooLong => .error ⟨.nameTooLong, path⟩
  | .error _ => .ok none

/-- Whether a path leads to a directory. -/
def isDir (tree : FileTree) (path : Path) : Except FileFault Bool :=
  (tree.find? path).map fun
    | some .dir => true
    | _ => false

/-- Whether a path leads to a file. -/
def isFile (tree : FileTree) (path : Path) : Except FileFault Bool :=
  (tree.find? path).map fun
    | some (.file _) => true
    | _ => false

/-- The text of a file. -/
def read (tree : FileTree) (path : Path) : Except FileFault Text :=
  match tree.locate path with
  | .error problem => .error ⟨problem, path⟩
  | .ok location =>
    if tree.isDirAt location then .error ⟨.isADirectory, path⟩
    else
      match tree.fileAt? location with
      | some t => .ok t
      | none => .error ⟨.notFound, path⟩

/-- The tree with a text in a file. Its directory has to be there. -/
def write (tree : FileTree) (path : Path) (t : Text) : Except FileFault FileTree :=
  match tree.locate path with
  | .error problem => .error ⟨problem, path⟩
  | .ok location =>
    if tree.isDirAt location then .error ⟨.isADirectory, path⟩
    else .ok { tree with files := tree.files.put location t }

/-! ## Directories -/

/-- The tree with a directory at the end of a path. All that comes before its last name has to
be there; if the directory is there too, nothing changes. -/
def makeDir (tree : FileTree) (path : Path) : Except FileProblem FileTree :=
  match tree.locate path with
  | .error problem => .error problem
  | .ok location =>
    if tree.isDirAt location then .ok tree
    else if (tree.fileAt? location).isSome then .error .taken
    else .ok { tree with dirs := tree.dirs ++ [location] }

/-- The tree with a directory at the end of a path with the given names, the last name first,
and all the directories on the way. Those above are made only where one is missing. -/
def makeDirsAt (root : Text) : List Text → FileTree → Except FileFault FileTree
  | [], tree => (tree.makeDir ⟨root, []⟩).mapError fun problem => ⟨problem, ⟨root, []⟩⟩
  | name :: names, tree =>
    let path : Path := ⟨root, (name :: names).reverse⟩
    match tree.makeDir path with
    | .ok tree => .ok tree
    | .error .notFound => do
      let tree ← makeDirsAt root names tree
      (tree.makeDir path).mapError fun problem => ⟨problem, path⟩
    | .error problem => .error ⟨problem, path⟩

/-- The tree with a directory at the end of a path, and all the directories on the way. -/
def makeDirs (tree : FileTree) (path : Path) : Except FileFault FileTree :=
  makeDirsAt path.root path.names.reverse tree

/-- The locations of everything in the tree. -/
def locations (tree : FileTree) : List Location := tree.dirs ++ tree.files.keys

/-- The names in a directory. -/
def list (tree : FileTree) (path : Path) : List Text :=
  match tree.locate path with
  | .error _ => []
  | .ok location =>
    tree.locations.filterMap fun other =>
      if !other.isEmpty && other.dropLast = location then other.getLast? else none

end FileTree

end GraphSketch
