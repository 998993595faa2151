import GraphSketch.Text.Blank
import GraphSketch.Text.LowerCase

/-!
# Shapes

A node whose label is the name of a shape has that shape, whatever the blanks around the label and
the case of its letters; every other node is a rectangle. This is `infer_shape` of the Node
Registry (section D.5 of the specification).

* `Shape` are the shapes, and `Shape.name` their names, by which documents tell them.
* `Shape.basic` and `Shape.extended` are the keywords `BASE_SHAPE_KEYWORDS` and
  `EXTENDED_SHAPE_KEYWORDS`: a session knows the first four, or all seven.
* `Shape.ofLabel` gives the shape that a label asks for, among those that are known.

Only a whole label counts, so `circle 2` is a rectangle. A label keeps its keyword as a label, and
renaming a node does not change the shape that it was given. How a shape is drawn is up to the
diagram language: Mermaid has forms of its own for three of them, DOT for all.
-/

set_option autoImplicit false

namespace GraphSketch

/-- The shape of a node. -/
inductive Shape where
  | circle
  | square
  | rectangle
  | diamond
  | star
  | pentagon
  | hexagon
  deriving DecidableEq, Repr

namespace Shape

/-- The name of a shape. -/
def name : Shape → Text
  | circle => "circle"
  | square => "square"
  | rectangle => "rectangle"
  | diamond => "diamond"
  | star => "star"
  | pentagon => "pentagon"
  | hexagon => "hexagon"

/-- The shapes that every sketch knows. -/
def basic : List Shape := [circle, square, rectangle, diamond]

/-- The shapes of the extended set. -/
def extended : List Shape := basic ++ [star, pentagon, hexagon]

/-- The shape with the given name, of those in `known`. -/
def ofName? (known : List Shape) (name : Text) : Option Shape := known.find? (·.name = name)

/-- The shape that a label asks for. -/
def ofLabel (known : List Shape) (label : Text) : Shape :=
  (ofName? known (Text.lower (Text.trim label))).getD rectangle

end Shape

end GraphSketch
