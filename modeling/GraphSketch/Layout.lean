import GraphSketch.Text.Blank
import GraphSketch.Text.LowerCase

/-!
# Layouts

A layout is chosen by name, in a sketch by `=layout(kind)` and on the command line by `--layout`,
and each is drawn by one of three engines. The table is `LAYOUT_ENGINES` (section K.3 of the
specification): `decision`, `tree` and `list` are drawn by `dot`, `circle` by `circo` and `grid`
by `osage`.

* `Layout.all` lists the layouts in the order of their names, as messages do.
* `Layout.ofName?` finds a layout by its name, whatever the blanks around it and the case of its
  letters.
* `Layout.engineFor` (`layout_engine`) is the engine for a name that may be missing or unknown:
  without a name it is `dot`, and an unknown name is given back, unchanged, for the message.
* `Layout.unknownMessage` is what `UnknownLayoutError` says of such a name.

Where the nodes come to lie is the engine's own affair; there is no geometry here. Commands accept
any name, so a document can ask for a layout that is not in the table; this is found when code is
made of it.
-/

set_option autoImplicit false

namespace GraphSketch

/-- A way to arrange a graph. -/
inductive Layout where
  | circle
  | decision
  | grid
  | list
  | tree
  deriving DecidableEq, Repr

namespace Layout

/-- The layouts in the order of their names. -/
def all : List Layout := [circle, decision, grid, list, tree]

/-- The name of a layout. -/
def name : Layout → Text
  | circle => "circle"
  | decision => "decision"
  | grid => "grid"
  | list => "list"
  | tree => "tree"

/-- The engine that draws a layout. -/
def engine : Layout → Text
  | circle => "circo"
  | grid => "osage"
  | decision | list | tree => "dot"

/-- The engine for graphs without a layout. -/
def defaultEngine : Text := "dot"

/-- The layout with the given name, up to blanks around it and the case of its letters. -/
def ofName? (t : Text) : Option Layout := all.find? (·.name = Text.lower (Text.trim t))

/-- What is said of a name that belongs to no layout. -/
def unknownMessage (t : Text) : Text :=
  "Unknown layout '" ++ t ++ "' (expected one of: " ++ Text.join ", " (all.map name) ++ ")"

/-- The engine for the layout with the given name. No name, or an empty one, means the default
engine; a name that belongs to no layout is given back as the error. -/
def engineFor : Option Text → Except Text Text
  | none => .ok defaultEngine
  | some t =>
    if t.isEmpty then .ok defaultEngine
    else
      match ofName? t with
      | some layout => .ok layout.engine
      | none => .error t

end Layout

end GraphSketch
