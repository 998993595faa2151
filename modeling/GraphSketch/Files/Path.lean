import GraphSketch.Text.Basic

/-!
# Paths

A path is a root, which is empty for relative paths, and the names that lead on from there.
Repeated separators and single dots in a spelling mean nothing; two dots are a name like any other
here, and lead back only in a file tree.

* `Path.ofText` and `Path.toText` read and write paths. A path that leads nowhere is written as a
  dot, and just two separators at the beginning stay two.
* `Path.child`, `Path.parent` and `Path.name` add a name, drop the last one, and give it.
* `Path.suffix` and `Path.stem` part the last name at its last dot, unless that dot is its first
  or last character; `Path.withSuffix?` changes the part after it, and fails where there is no
  name.

These are the operations that the programs use of the paths of the runtime. Paths are of the kind
that has `/` between the names; there are no drives, and links are not followed.
-/

set_option autoImplicit false

namespace GraphSketch

/-- A path in a file tree. -/
structure Path where
  root : Text
  names : List Text
  deriving DecidableEq, Repr

namespace Path

/-- The path that stays where it is. -/
def here : Path := ⟨[], []⟩

/-- The root of a spelling: just two separators at the beginning are kept as two. -/
def rootOf (t : Text) : Text :=
  match (t.takeWhile (· = '/')).length with
  | 0 => []
  | 2 => "//"
  | _ => "/"

/-- The path with the given spelling. -/
def ofText (t : Text) : Path :=
  ⟨rootOf t, (t.splitOn '/').filter fun name => !name.isEmpty && name != ['.']⟩

/-- The spelling of a path, a dot if it leads nowhere. -/
def toText (path : Path) : Text :=
  if path.root.isEmpty && path.names.isEmpty then ['.']
  else path.root ++ Text.join "/" path.names

/-- The path to a name inside a directory. -/
def child (path : Path) (name : Text) : Path := { path with names := path.names ++ [name] }

/-- The path to the directory that holds the last name. -/
def parent (path : Path) : Path := { path with names := path.names.dropLast }

/-- The last name, empty if there is none. -/
def name (path : Path) : Text := path.names.getLast?.getD []

/-- The part of a name from its last dot on. -/
def suffixOf (name : Text) : Text :=
  let tail := name.reverse.takeWhile (· ≠ '.')
  let front := (name.reverse.dropWhile (· ≠ '.')).drop 1
  if tail.isEmpty || front.isEmpty then [] else '.' :: tail.reverse

/-- The part of a name before its suffix. -/
def stemOf (name : Text) : Text := name.take (name.length - (suffixOf name).length)

/-- The suffix of the last name. -/
def suffix (path : Path) : Text := suffixOf path.name

/-- The last name without its suffix. -/
def stem (path : Path) : Text := stemOf path.name

/-- The path with another suffix on its last name, if it has one. -/
def withSuffix? (path : Path) (suffix : Text) : Option Path :=
  if path.name.isEmpty then none else some (path.parent.child (path.stem ++ suffix))

end Path

end GraphSketch
