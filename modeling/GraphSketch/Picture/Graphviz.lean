import GraphSketch.Picture.Dot

/-!
# The library that writes DOT code

The code is written by the `graphviz` package, which is no part of the programs.  Here stands the part
of it that they use, after its documentation: one statement a line, first the attributes of the graph,
then its nodes and its edges, each with a list of attributes in brackets, the label first and the
others in the order of their names.  Names and values stand as they are if the language allows it or
they are in angle brackets; others stand between quotes.  The end of an edge is parted at its colons
into a node, a port and a compass point.

* `Graphviz.quote`, `Graphviz.quoteEnd`, `Graphviz.order` — values, ends of edges, and the order of
  attributes.
* `Graphviz.source` — the code of a graph.
* `Graphviz.library` — this library as the one that the programs draw with.

Subgraphs, ports given apart from names, attributes for all nodes or all edges, and files and pictures
that the package makes of its code are left out: no program asks for them.
-/

set_option autoImplicit false

namespace GraphSketch

open Dot (Attribute Digraph isMarkup isPlain escapeQuotes titleLine)

namespace Graphviz

/-! ## Values -/

/-- A name or value. -/
def quote (t : Text) : Text :=
  if isMarkup t || isPlain t then t else '"' :: (escapeQuotes false t ++ ['"'])

/-- A text parted at its first colon. -/
def partColon (t : Text) : Text × Text := (t.takeWhile (· ≠ ':'), (t.dropWhile (· ≠ ':')).drop 1)

/-- The end of an edge: a node, and after colons a port and a compass point. -/
def quoteEnd (t : Text) : Text :=
  let (node, rest) := partColon t
  if rest.isEmpty then
    quote node
  else
    let (port, compass) := partColon rest
    quote node ++ ":" ++ quote port ++ (if compass.isEmpty then [] else ':' :: compass)

/-! ## Attributes -/

/-- An attribute put before the first one with a later name. -/
def insert (a : Attribute) : List Attribute → List Attribute
  | [] => [a]
  | b :: bs => if !Text.before b.1 a.1 then a :: b :: bs else b :: insert a bs

/-- Attributes in the order of their names. -/
def order : List Attribute → List Attribute
  | [] => []
  | a :: attributes => insert a (order attributes)

/-- An attribute with its value. -/
def pair (a : Attribute) : Text := a.1 ++ "=" ++ quote a.2

/-- A label and other attributes in brackets, unless there are none. -/
def bracketed (label : Option Text) (attributes : List Attribute) : Text :=
  match (label.map fun t => pair ("label", t)).toList ++ (order attributes).map pair with
  | [] => []
  | pairs => " [" ++ Text.join " " pairs ++ "]"

/-! ## Statements -/

/-- The statement of a node. -/
def nodeLine (node : Dot.Node) : Text :=
  "\t" ++ quote node.name ++ bracketed node.label node.attributes ++ "\n"

/-- The statement of an edge. -/
def edgeLine (e : Dot.Edge) : Text :=
  "\t" ++ quoteEnd e.tail ++ " -> " ++ quoteEnd e.head ++ bracketed e.label e.attributes ++ "\n"

/-- The code of a graph. -/
def source (graph : Digraph) : Text :=
  titleLine graph.comment ++ "digraph " ++ quote graph.name ++ " \x7b\n" ++
    "\t" ++ Text.join " " ((order graph.attributes).map pair) ++ "\n" ++
    graph.nodes.flatMap nodeLine ++ graph.edges.flatMap edgeLine ++ "\x7d\n"

instance library : Dot.Library where
  quote := quote
  quoteEnd := quoteEnd
  order := order
  source := source

end Graphviz

end GraphSketch
