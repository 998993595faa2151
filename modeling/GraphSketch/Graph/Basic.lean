import GraphSketch.Arrow
import GraphSketch.Graph.Shape
import GraphSketch.Numbering

/-!
# Nodes and edges

A graph grows from the lines of a sketch: each label becomes a node once, and each arrow between
two operands becomes one edge, or two if it points both ways. A `Canvas` is the graph that has
been drawn so far together with the numbering that its labels are numbered by; it stands for the
Node Registry and the Edge Registry of one parse (sections D.5 and D.6 of the specification).

* `Node` and `Edge` are what is drawn. An edge is told from others between the same nodes by its
  place, which is a part of its id; an edge from a node to itself is a loop.
* `Canvas.addNode` (`add`) adds a label as a node, with the next number, the next place and the
  shape that the label asks for; a label that is there already changes nothing.
* `Direction.ends` and `linkEdges` (`edge_specs`) say which edges an arrow makes.
* `links` pairs the arrows of a chain with the operands beside them, and `Canvas.connect`
  (`create_edges_from_arrows`) adds the edges of the arrows that have both.
* `Canvas.resolve` (`resolve`) is the label that a text names.

Edges are never merged: a statement that is repeated repeats its edges.
-/

set_option autoImplicit false

namespace GraphSketch

/-- A node of a graph. -/
structure Node where
  label : Text
  /-- The number by which references name the node. -/
  number : Int
  shape : Shape
  /-- The place among the nodes, from zero. -/
  order : Nat
  deriving DecidableEq, Repr

/-- An edge of a graph. -/
structure Edge where
  /-- The place among the edges, from zero. -/
  index : Nat
  source : Text
  target : Text
  label : Option Text
  deriving DecidableEq, Repr

namespace Edge

/-- The name of an edge, which its place keeps apart from the names of all others. -/
def id (e : Edge) : Text := e.source ++ "-" ++ e.target ++ "-" ++ Text.ofNat e.index

/-- Whether the edge leads back to where it comes from. -/
def isLoop (e : Edge) : Bool := e.source = e.target

end Edge

/-- The ends of the edges, from source to target, that an arrow stands for. -/
def Direction.ends (left right : Text) : Direction → List (Text × Text)
  | forward => [(left, right)]
  | backward => [(right, left)]
  | bidirectional => [(left, right), (right, left)]

/-- Each arrow of a chain with the operand before it and the operand after it. -/
def links {α : Type} : List α → List (Option Text) → List (α × Option Text × Option Text)
  | [], _ => []
  | a :: as, left :: right :: operands => (a, left, right) :: links as (right :: operands)
  | a :: as, [left] => (a, left, none) :: links as []
  | a :: as, [] => (a, none, none) :: links as []

/-- The ends and the label of the edges of an arrow between two operands; an arrow without one
of them has no edges. -/
def linkEdges : Arrow × Option Text × Option Text → List (Text × Text × Option Text)
  | (arrow, some left, some right) =>
    (arrow.direction.ends left right).map fun e => (e.1, e.2, arrow.label)
  | _ => []

/-- The graph as far as it has been drawn, and the numbering of its labels. -/
structure Canvas where
  numbering : Numbering
  nodes : List Node
  edges : List Edge

namespace Canvas

/-- Nothing drawn yet. -/
def start (numbering : Numbering) : Canvas := ⟨numbering, [], []⟩

/-- The node with the given label. -/
def node? (canvas : Canvas) (label : Text) : Option Node :=
  canvas.nodes.find? (·.label = label)

/-- Adds a node with the given label unless there is one. -/
def addNode (known : List Shape) (canvas : Canvas) (label : Text) : Canvas :=
  if (canvas.node? label).isSome then
    canvas
  else
    let (numbering, number) := canvas.numbering.assign label
    { canvas with
      numbering := numbering
      nodes := canvas.nodes ++ [⟨label, number, Shape.ofLabel known label, canvas.nodes.length⟩] }

/-- Adds an edge; one that is there already is added again. -/
def addEdge (canvas : Canvas) (e : Text × Text × Option Text) : Canvas :=
  { canvas with edges := canvas.edges ++ [⟨canvas.edges.length, e.1, e.2.1, e.2.2⟩] }

/-- Adds the edges of a chain. -/
def connect (canvas : Canvas) (arrows : List Arrow) (operands : List (Option Text)) : Canvas :=
  ((links arrows operands).flatMap linkEdges).foldl addEdge canvas

/-- The label that a text names, without blanks around it. -/
def resolve (canvas : Canvas) (t : Text) : Except ResolveFault Text :=
  canvas.numbering.resolve (Text.trim t)

end Canvas

end GraphSketch
