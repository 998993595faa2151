import GraphSketch.Picture.Basic

/-!
# Mermaid code

A picture as a Mermaid flowchart: one statement a line, first the nodes, then the edges, and at
the end the styles. This is `generate_mermaid` (section K.3 of the specification).

* `Mermaid.brackets` (`_mermaid_shape`) are the brackets of a shape: circles, diamonds and
  hexagons have their own, and all other nodes have those of a rectangle.
* `Mermaid.nodeLabel` and `Mermaid.edgeLabel` write labels. A quote in the label of a node and a
  bar in the label of an edge would end it, so they are written as entities; a line feed is
  written as `\n`, and all else stays as it is.
* `Mermaid.styleLine` (`_style_line`) is the statement of a style, if the node has any setting.
* `Mermaid.code` writes a picture, and `Document.mermaid` a document.

Labels that spell an entity out are not escaped once more, so two labels may be written alike.
Keys are written as they are, and so are colours and widths; for documents from elsewhere they may
be anything. The layout of a document does not matter to Mermaid.
-/

set_option autoImplicit false

namespace GraphSketch

namespace Mermaid

/-- What stands before and after the label of a node, by the name of its shape in any case. -/
def brackets (shape : Text) : Text × Text :=
  let shape := Text.lower shape
  if shape = "circle" then ("((", "))")
  else if shape = "diamond" then ("\x7b", "\x7d")
  else if shape = "hexagon" then ("\x7b\x7b", "\x7d\x7d")
  else ("[", "]")

/-- The label of a node. -/
def nodeLabel (t : Text) : Text := Text.replaceChar '"' "#quot;" (Picture.escapeLabel t)

/-- The label of an edge. -/
def edgeLabel (t : Text) : Text := Text.replaceChar '|' "#124;" (Picture.escapeLabel t)

/-- The statement of a node. -/
def nodeLine (node : Picture.Node) : Text :=
  let (opening, closing) := brackets node.shape
  "  " ++ node.key ++ opening ++ "\"" ++ nodeLabel node.label ++ "\"" ++ closing ++ "\n"

/-- The statement of an edge. -/
def edgeLine (e : Picture.Edge) : Text :=
  "  " ++ e.source ++ " -->" ++
    (match e.label with
      | some label => "|" ++ edgeLabel label ++ "|"
      | none => []) ++ " " ++ e.target ++ "\n"

/-- A setting of a style, with the unit that follows its value. -/
def setting (name unit value : Text) : Text := name ++ ":" ++ value ++ unit

/-- The settings of a node's style. -/
def styleParts (node : Picture.Node) : List Text :=
  (node.fill.map (setting "fill" [])).toList ++
    (node.stroke.map (setting "stroke" [])).toList ++
    (node.width.map (setting "stroke-width" "px")).toList

/-- The statement of a node's style, if it has any setting. -/
def styleLine (node : Picture.Node) : Text :=
  match styleParts node with
  | [] => []
  | parts => "  style " ++ node.key ++ " " ++ Text.join "," parts ++ "\n"

/-- The code of a picture. -/
def code (picture : Picture) : Text :=
  "flowchart " ++ picture.orientation.name ++ "\n" ++ picture.nodes.flatMap nodeLine ++
    picture.edges.flatMap edgeLine ++ picture.nodes.flatMap styleLine

end Mermaid

/-- The Mermaid code of a document. -/
def Document.mermaid (document : Document) : Except DocumentFault Text :=
  (Picture.ofDocument document).map Mermaid.code

end GraphSketch
