import GraphSketch.Document.Fields
import GraphSketch.Execution
import GraphSketch.Sketch

/-!
# Graph documents

A graph document is the JSON object that a sketch is handed on as: title, orientation, nodes,
edges and commands, with warnings and errors where there are any (section F of the specification).
A node keeps its label as its `id` whatever is done to it later; only the label that is shown
changes.

* `Document.ofDiagram` (`build_graph_document`) writes a diagram as a document, with `Untitled`
  and `TB` where title and orientation are empty, and `Document.addFields` adds further fields to
  it.
* `Node.toJson`, `Edge.toJson`, `Request.toJson`, `LineError.toJson` (`to_dict`) write its parts.
* `Document.apply` is what one action does to a document: the last node with the id is changed,
  the layout is set, a failure is added to the warnings, and a selection changes nothing.
* `Document.sink` (`DocumentCommandSink`) folds the effects of commands into a document and keeps
  a journal of them, and `Document.execute` runs commands on any document.

A document that did not come from a sketch may be unfit for that: a node without an id is a fault
before the first command (`Document.checkNodes`), and a command that fails is one where the
warnings are no list.
-/

set_option autoImplicit false

namespace GraphSketch

open Json (textField intField listField)

/-! ## Parts of a document -/

/-- A node in a document. -/
def Node.toJson (node : Node) : Json :=
  .obj [
    textField "id" node.label,
    textField "label" node.label,
    textField "shape" node.shape.name,
    intField "numericId" node.number,
    intField "order" node.order]

/-- The label of an edge as a field, if it is not empty. -/
def Edge.labelField (e : Edge) : List (Text × Json) :=
  match e.label.bind Text.nonEmpty? with
  | some label => [textField "label" label]
  | none => []

/-- An edge in a document. -/
def Edge.toJson (e : Edge) : Json :=
  .obj ([textField "id" e.id, textField "source" e.source, textField "target" e.target] ++
    e.labelField)

/-- A command in a document. -/
def Request.toJson : Request → Json
  | select ref params =>
    .obj ([textField "type" "select", textField "ref" ref] ++
      if params.isEmpty then [] else [textField "params" params])
  | rename ref label =>
    .obj [textField "type" "rename", textField "oldRef" ref, textField "newLabel" label]
  | layout kind => .obj [textField "type" "layout", textField "kind" kind]

/-- The message of a line that was left out. -/
def LineError.message (e : LineError) : Text := e.cause.message

/-- A line that was left out, in a document. -/
def LineError.toJson (e : LineError) : Json :=
  .obj [intField "line" e.line, textField "text" e.text, textField "message" e.message]

/-- The settings of a style as fields. -/
def Style.fields (style : Style) : List (Text × Json) :=
  (style.fill.map (textField "fill")).toList ++
    (style.stroke.map (textField "stroke")).toList ++
    (style.width.map fun n => intField "strokeWidth" n).toList

/-- An action as a list of its name and what it is about. -/
def Action.toJson : Action → Json
  | select label => .arr [.str "select", .str label]
  | inspect label => .arr [.str "inspect", .str label]
  | style label settings => .arr [.str "style", .str label, .obj settings.fields]
  | rename label newLabel => .arr [.str "rename", .str label, .str newLabel]
  | layout kind labels => .arr [.str "layout", .str kind, .arr (labels.map .str)]
  | error fault => .arr [.str "error", .str fault.message]

namespace Document

/-- The title of a document that is given none. -/
def defaultTitle : Text := "Untitled"

/-- The orientation of a document that is given none. -/
def defaultOrientation : Text := "TB"

/-- The field called `key` with the given items, unless there are none. -/
def optionalList (key : Text) (items : List Json) : List (Text × Json) :=
  if items.isEmpty then [] else [listField key items]

/-- A text where one is given and not empty, else the default. -/
def textOr (default : Text) (t : Option Text) : Text := (t.bind Text.nonEmpty?).getD default

/-- The document of a diagram. -/
def ofDiagram (title : Text) (orientation : Option Text) (diagram : Diagram) : Document :=
  [textField "title" (textOr defaultTitle title),
   textField "orientation" (textOr defaultOrientation orientation),
   listField "nodes" (diagram.nodes.map Node.toJson),
   listField "edges" (diagram.edges.map Edge.toJson),
   listField "commands" (diagram.commands.map (·.request.toJson))] ++
    optionalList "warnings" (diagram.warnings.map (.str ·.message)) ++
    optionalList "errors" (diagram.errors.map LineError.toJson)

/-- The document with further fields; those that are null are left out. -/
def addFields (document : Document) (extras : List (Text × Json)) : Document :=
  extras.foldl (fun document e =>
    match e.2 with
    | .null => document
    | v => document.put e.1 v) document

/-! ## Changes to a document -/

/-- Whether warnings can be added to the document. -/
def takesWarnings (document : Document) : Bool :=
  match document.get? "warnings" with
  | none | some (.arr _) => true
  | some _ => false

/-- Adds a warning; something else in the place of the warnings is left alone. -/
def addWarning (document : Document) (message : Text) : Document :=
  match document.get? "warnings" with
  | none => document.put "warnings" (.arr [.str message])
  | some (.arr warnings) => document.put "warnings" (.arr (warnings ++ [.str message]))
  | some _ => document

/-- Whether an item is an object with the given label as its `id`. -/
def isNode (id : Text) (item : Json) : Bool :=
  match item.field? "id" with
  | some (.str t) => t = id
  | _ => false

/-- An item with fields set, if it is an object. -/
def setFields (fields : List (Text × Json)) : Json → Json
  | .obj old => .obj (fields.foldl (fun m e => OrderedMap.put m e.1 e.2) old)
  | item => item

/-- The items with the last one that is the given node changed. -/
def changeLast (id : Text) (change : Json → Json) : List Json → List Json
  | [] => []
  | item :: items =>
    if items.any (isNode id) then item :: changeLast id change items
    else if isNode id item then change item :: items
    else item :: items

/-- The document with fields set in the last node that has the given `id`. -/
def setNode (document : Document) (id : Text) (fields : List (Text × Json)) : Document :=
  match document.get? "nodes" with
  | some (.arr nodes) => document.put "nodes" (.arr (changeLast id (setFields fields) nodes))
  | _ => document

/-- The document after an action. -/
def apply (document : Document) : Action → Document
  | .select _ | .inspect _ => document
  | .style label settings => document.setNode label settings.fields
  | .rename label newLabel => document.setNode label [textField "label" newLabel]
  | .layout kind _ => document.put "layout" (.str kind)
  | .error fault => document.addWarning ("command_failed: " ++ fault.message)

/-- The sink that keeps every action and changes a document by it. -/
def sink : Sink (List Action × Document) :=
  ⟨fun state action => (journal.accept state.1 action, state.2.apply action)⟩

/-- Checks an item among the nodes: if it is an object it needs an `id`. -/
def checkNode : Json → Except DocumentFault Unit
  | .obj fields =>
    if OrderedMap.has fields "id" then (idOf (OrderedMap.get? fields "id")).map fun _ => ()
    else .error .missingId
  | _ => .ok ()

/-- Checks that the nodes of a document can be found, without which commands are not run. -/
def checkNodes (document : Document) : Except DocumentFault Unit := do
  (← document.parts "nodes").forM checkNode

/-- Carries out commands on a document: the actions, the document after them, and of each command
whether it was carried out. A command that fails is a fault where no warning can be added. -/
def execute (document : Document) (nodes : List Node) (requests : List Request) :
    Except DocumentFault (List Action × Document × Except OversizedNumeral (List Bool)) := do
  document.checkNodes
  let ((actions, changed), results) := sink.executeAll nodes ([], document) requests
  if !document.takesWarnings && actions.any Action.isError then .error .warningsNotAList
  else pure (actions, changed, results)

end Document

end GraphSketch
