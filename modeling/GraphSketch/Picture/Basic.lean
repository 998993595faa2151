import GraphSketch.Document.Fields

/-!
# Pictures

A picture is what a graph document says to a diagram language: nodes with short keys and plain
texts, and edges between keys. Documents may come from anywhere, so that fields may be missing or
hold values of any kind; a picture has none of that. Both generators read documents alike, so what
they share stands here once.

* `Picture.nodeKey` (`node_key`) makes a key from the number of a node, or takes its id where it
  has no number, and `Picture.keys` (`node_keys`) gives the nodes of a document their keys.
* `Picture.ofDocument` reads a document. A node without a label is labelled with its id; an edge
  whose end is no node with a key is left out.
* `Orientation.ofText` (`orientation_to_rankdir`) is the direction, from top to bottom unless the
  document has the name of another one.
* `Picture.engine` is the layout engine that a document asks for, where none is asked for
  otherwise.
* `Picture.escapeLabel` (`escape_label`) writes line feeds of labels as `\n`.

Nodes may have one key in common, and an id may be any text: nothing makes keys unique, or fit for
a language, unless the nodes are numbered by `Numbering`.
-/

set_option autoImplicit false

namespace GraphSketch

/-- How the ranks of a diagram follow one another. -/
inductive Orientation where
  | topDown
  | bottomUp
  | leftRight
  | rightLeft
  deriving DecidableEq, Repr

namespace Orientation

/-- The orientations. -/
def all : List Orientation := [topDown, bottomUp, leftRight, rightLeft]

/-- The two letters of an orientation. -/
def name : Orientation → Text
  | topDown => "TB"
  | bottomUp => "BT"
  | leftRight => "LR"
  | rightLeft => "RL"

/-- The orientation with the given two letters, capital or small; anything else means top down. -/
def ofText (t : Text) : Orientation :=
  (all.find? (·.name = t.map Char.toUpper)).getD topDown

end Orientation

namespace Picture

/-- A node of a picture. -/
structure Node where
  key : Text
  label : Text
  shape : Text
  fill : Option Text
  stroke : Option Text
  width : Option Text
  deriving DecidableEq, Repr

/-- An edge of a picture, by the keys of its ends. -/
structure Edge where
  source : Text
  target : Text
  label : Option Text
  deriving DecidableEq, Repr

end Picture

/-- A picture of a graph. -/
structure Picture where
  title : Text
  orientation : Orientation
  nodes : List Picture.Node
  edges : List Picture.Edge
  deriving DecidableEq, Repr

namespace Picture

/-! ## Keys -/

/-- The key of a node: `n` and its number, or its id where it has no number. -/
def nodeKey (fields : OrderedMap Text Json) : Text :=
  match fields.get? "numericId" with
  | none | some .null => ((fields.get? "id").map Json.spelling).getD "node"
  | some n => 'n' :: n.spelling

/-- The table of keys with a further node; of two nodes with one id the last gives the key. -/
def addKey (keys : OrderedMap NodeId Text) (node : Json) :
    Except DocumentFault (OrderedMap NodeId Text) := do
  let fields ← Document.fieldsOf node
  match ← Document.idOf (fields.get? "id") with
  | none => pure keys
  | some id => pure (keys.put id (nodeKey fields))

/-- The keys of nodes by their ids. -/
def keys (nodes : List Json) : Except DocumentFault (OrderedMap NodeId Text) :=
  nodes.foldlM addKey []

/-! ## Nodes and edges -/

/-- The shape of a node that is given none. -/
def defaultShape : Text := "rectangle"

/-- The text under `label`, or the id if there is no such field. -/
def labelOf (fields : OrderedMap Text Json) : Except DocumentFault Text :=
  Document.textOf (if fields.has "label" then fields.get? "label" else fields.get? "id")

/-- A node of a document as a node of a picture. -/
def nodeOf (keys : OrderedMap NodeId Text) (node : Json) : Except DocumentFault Node := do
  let fields ← Document.fieldsOf node
  let id ← Document.idOf (fields.get? "id")
  match id.bind keys.get? with
  | none => .error .missingId
  | some key =>
    let label ← labelOf fields
    let shape ← Document.textOf (fields.get? "shape")
    pure {
      key := key
      label := label
      shape := if shape.isEmpty then defaultShape else shape
      fill := Document.settingOf (fields.get? "fill")
      stroke := Document.settingOf (fields.get? "stroke")
      width := Document.measureOf (fields.get? "strokeWidth") }

/-- The key that an end of an edge names, unless it is empty. -/
def endOf (keys : OrderedMap NodeId Text) (v : Option Json) :
    Except DocumentFault (Option Text) :=
  (Document.idOf v).map fun id => (id.bind keys.get?).bind Text.nonEmpty?

/-- An edge of a document as an edge of a picture, if both its ends have keys. -/
def edgeOf (keys : OrderedMap NodeId Text) (e : Json) : Except DocumentFault (Option Edge) := do
  let fields ← Document.fieldsOf e
  let source ← endOf keys (fields.get? "source")
  let target ← endOf keys (fields.get? "target")
  match source, target with
  | some source, some target =>
    let label ← Document.textOf (fields.get? "label")
    pure (some ⟨source, target, label.nonEmpty?⟩)
  | _, _ => pure none

/-- The picture of a document. -/
def ofDocument (document : Document) : Except DocumentFault Picture := do
  let orientation ← Document.textOf (document.get? "orientation")
  let nodes ← document.parts "nodes"
  let keys ← keys nodes
  let drawn ← nodes.mapM (nodeOf keys)
  let edges ← document.parts "edges"
  let lines ← edges.mapM (edgeOf keys)
  pure {
    title := (Document.settingOf (document.get? "title")).getD []
    orientation := Orientation.ofText orientation
    nodes := drawn
    edges := lines.filterMap id }

/-- The engine for a layout, or if none is given for the layout of the document. -/
def engine (document : Document) (layout : Option Text) : Except DocumentFault Text := do
  let kind ←
    match layout.bind Text.nonEmpty? with
    | some kind => pure kind
    | none => Document.textOf (document.get? "layout")
  (Layout.engineFor (some kind)).mapError .unknownLayout

/-- A label as diagram languages write it, with `\n` for a line feed. -/
def escapeLabel (t : Text) : Text := Text.replaceChar '\n' "\\n" t

end Picture

end GraphSketch
