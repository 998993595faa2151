import GraphSketch.Picture.Basic
import GraphSketch.Text.Digit

/-!
# DOT code

DOT is the language of Graphviz. No DOT code is written here: a picture is handed, as a graph with
names, labels and attributes, to a library that knows the language, and what the library gives
back is the code. The graph is made the way `build_digraph` makes it (section K.3 of the
specification): named `sketch`, with the title as its comment, the engine and the direction as its
attributes, then the nodes under their keys, each with its label and the attributes of its style,
and the edges between keys, with their labels.

* `Dot.Digraph` is such a graph, `Dot.digraph` that of a picture, and `Dot.Library` the library.
* `Dot.isMarkup`, `Dot.isPlain`, `Dot.escapeQuotes` — the kinds of values that the library tells
  apart, and what it does to those that it quotes.
* `Dot.shapeName` (`shape_map_to_dot`) and `Dot.attributesOf` (`_node_attrs`) — what a node is
  drawn with.
* `Document.dot` (`generate_dot`) — the code of a document, for a layout.

A picture has whole texts as its settings. What is no text in a document is spelled before, by
`Picture.ofDocument`, and a document that cannot be drawn never gets here.
-/

set_option autoImplicit false

namespace GraphSketch

namespace Dot

/-! ## Values -/

/-- Whether the text holds only the character `c`, or `c` and a line feed after it. -/
def isLast (c : Char) (t : Text) : Bool := t = [c] || t = [c, '\n']

/-- Whether a closing bracket ends the text, but for one line feed. -/
def endsMarkup : Text → Bool
  | [] => false
  | c :: cs => isLast '>' (c :: cs) || endsMarkup cs

/-- Whether the text is in angle brackets. -/
def isMarkup : Text → Bool
  | '<' :: cs => endsMarkup cs
  | _ => false

/-- A letter of ASCII or the underscore. -/
def isNameStart (c : Char) : Bool := c.isAlpha || c = '_'

/-- A letter or digit of ASCII or the underscore. -/
def isNameChar (c : Char) : Bool := c.isAlphanum || c = '_'

/-- Whether the text is a name. -/
def isName : Text → Bool
  | [] => false
  | c :: cs => isNameStart c && cs.all isNameChar

/-- Whether the text is a number without sign. -/
def isUnsigned : Text → Bool
  | '.' :: places => !places.isEmpty && places.all isAsciiDigit
  | t =>
    let whole := t.takeWhile isAsciiDigit
    match t.dropWhile isAsciiDigit with
    | [] => !whole.isEmpty
    | '.' :: places => !whole.isEmpty && places.all isAsciiDigit
    | _ => false

/-- Whether the text is a number. -/
def isNumber : Text → Bool
  | '-' :: t => isUnsigned t
  | t => isUnsigned t

/-- The text without one line feed at its end. -/
def dropLineFeed (t : Text) : Text := if t.getLast? = some '\n' then t.dropLast else t

/-- The words with a meaning of their own. -/
def keywords : List Text := ["node", "edge", "graph", "digraph", "subgraph", "strict"]

/-- Whether the text may stand without quotes. -/
def isPlain (t : Text) : Bool :=
  (isName (dropLineFeed t) || isNumber (dropLineFeed t)) && !keywords.contains (Text.lower t)

/-- A text between quotes: a quote gets a backslash unless it has one. The first argument says
whether an odd number of backslashes comes before. -/
def escapeQuotes : Bool → Text → Text
  | _, [] => []
  | odd, '"' :: cs => (if odd then ['"'] else ['\\', '"']) ++ escapeQuotes false cs
  | odd, '\\' :: cs => '\\' :: escapeQuotes (!odd) cs
  | _, c :: cs => c :: escapeQuotes false cs

/-- The title as a comment, unless it is empty. -/
def titleLine (title : Text) : Text := if title.isEmpty then [] else "// " ++ title ++ "\n"

/-! ## Graphs -/

/-- An attribute: its name and its value. -/
abbrev Attribute := Text × Text

/-- A node with its label, if it has one, and its other attributes. -/
structure Node where
  name : Text
  label : Option Text
  attributes : List Attribute

/-- An edge with its label, if it has one, and its other attributes. -/
structure Edge where
  tail : Text
  head : Text
  label : Option Text
  attributes : List Attribute

/-- A directed graph, as it is handed to the library. -/
structure Digraph where
  name : Text
  comment : Text
  attributes : List Attribute
  nodes : List Node
  edges : List Edge

/-- A library that writes graphs in DOT. -/
class Library where
  /-- A name or a value, quoted where the language asks for it. -/
  quote : Text → Text
  /-- The end of an edge, in which a colon parts the node from a port. -/
  quoteEnd : Text → Text
  /-- The order in which attributes are written. -/
  order : List Attribute → List Attribute
  /-- The code of a graph. -/
  source : Digraph → Text

export Library (quote quoteEnd order source)

/-! ## Pictures as graphs -/

/-- The shapes that have a name of their own; the others are boxes. -/
def namedShapes : List Text := ["square", "circle", "diamond", "star", "pentagon", "hexagon"]

/-- The shape of a node, by the name of a shape in any case. -/
def shapeName (shape : Text) : Text :=
  (namedShapes.find? (· = Text.lower shape)).getD "box"

/-- The attributes that a colour brings in when nodes are filled with it. -/
def filling : Option Text → List Attribute
  | some colour => [("style", "filled"), ("fillcolor", colour)]
  | none => []

/-- The attributes of a node besides its label. -/
def attributesOf (node : Picture.Node) : List Attribute :=
  ("shape", shapeName node.shape) ::
    ((node.stroke.map (Prod.mk "color".toList)).toList ++ filling node.fill ++
      (node.width.map (Prod.mk "penwidth".toList)).toList)

/-- A picture as a graph that the given engine is to draw. -/
def digraph (picture : Picture) (engine : Text) : Digraph where
  name := "sketch"
  comment := picture.title
  attributes := [("rankdir", picture.orientation.name), ("layout", engine)]
  nodes := picture.nodes.map fun node =>
    ⟨node.key, some (Picture.escapeLabel node.label), attributesOf node⟩
  edges := picture.edges.map fun e =>
    ⟨e.source, e.target, e.label.map Picture.escapeLabel, []⟩

/-- The code of a picture that the given engine is to draw. -/
def code [Library] (picture : Picture) (engine : Text) : Text := source (digraph picture engine)

end Dot

/-- The DOT code of a document, for the given layout or else for its own. -/
def Document.dot [Dot.Library] (document : Document) (layout : Option Text) :
    Except DocumentFault Text := do
  let engine ← Picture.engine document layout
  let picture ← Picture.ofDocument document
  pure (Dot.code picture engine)

end GraphSketch
