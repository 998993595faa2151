import GraphSketch.Json.Spelling
import GraphSketch.Layout
import GraphSketch.OrderedMap

/-!
# Fields of a document

A graph document is a JSON object. It may come from anywhere, so that its fields may be missing or
hold values of any kind. The generators of code read their fields here, in the way in which the
runtime takes a value of one kind for a value of another.

* `DocumentFault` is what is wrong with a document that cannot be used. `missingId` and
  `unknownLayout` are reported in the words of the programs; of the other faults, which the
  runtime words by itself, only the kind is kept, and their messages are plain descriptions.
* `Document.textOf`, `Document.settingOf`, `Document.measureOf` and `Document.idOf` read the value
  of a field: a text, a colour, which is left out where it counts as absent, a width, which is
  left out where there is none, and what a node is found by.
* `NodeId` is what nodes are found by: a text or a number. A truth value is one or zero here, and
  a number that is equal to an integer is that integer.
* `Document.parts` reads a list of parts, where a text stands for its characters and an object for
  its keys, and `Document.fieldsOf` the fields of one part.

A colour or a width need be no text: whatever it is, it is drawn as `Json.spelling` spells it.
-/

set_option autoImplicit false

namespace GraphSketch

/-- The fields of a graph document. -/
abbrev Document := OrderedMap Text Json

/-- What is wrong with a document. -/
inductive DocumentFault where
  /-- A node has no `id`. -/
  | missingId
  /-- The layout is unknown. -/
  | unknownLayout (kind : Text)
  /-- A list of parts is something else. -/
  | notAList
  /-- A node or an edge is no object. -/
  | notAnObject
  /-- A text is something else. -/
  | notAText
  /-- An array or an object stands for an `id`. -/
  | notAnId
  /-- A warning is to be added, but to something that is no list. -/
  | warningsNotAList
  deriving DecidableEq, Repr

/-- The fault in words. -/
def DocumentFault.message : DocumentFault → Text
  | missingId => "'id'"
  | unknownLayout kind => Layout.unknownMessage kind
  | notAList => "a list of nodes or edges is not a list"
  | notAnObject => "a node or an edge is not an object"
  | notAText => "a label, shape, orientation or layout is not a text"
  | notAnId => "a node or an edge has an array or an object as its id"
  | warningsNotAList => "the warnings are not a list"

/-- What a node goes by. A truth value is the same as one or zero, and a number that is equal to
an integer is the same as that. -/
inductive NodeId where
  | text (t : Text)
  | number (n : Int)
  | fraction (x : Binary64)
  deriving DecidableEq, Repr

namespace Document

/-- The text in a field, empty where the value counts as absent. -/
def textOf : Option Json → Except DocumentFault Text
  | some (.str t) => .ok t
  | some v => if v.isAbsent then .ok [] else .error .notAText
  | none => .ok []

/-- The value of a field in words, unless it counts as absent. -/
def settingOf (v : Option Json) : Option Text :=
  v.bind fun v => if v.isAbsent then none else some v.spelling

/-- The value of a field in words, unless it is null. -/
def measureOf : Option Json → Option Text
  | none | some .null => none
  | some v => some v.spelling

/-- The id that a field holds, if it is there and not null. -/
def idOf : Option Json → Except DocumentFault (Option NodeId)
  | none | some .null => .ok none
  | some (.str t) => .ok (some (.text t))
  | some (.int n) => .ok (some (.number n))
  | some (.bool b) => .ok (some (.number (if b then 1 else 0)))
  | some (.real x) => .ok (some ((x.integer?.map .number).getD (.fraction x)))
  | some (.arr _) | some (.obj _) => .error .notAnId

/-- The parts in a list of them; a list that is missing is empty. In the place of a list a text
stands for its characters, and an object for its keys. -/
def parts (document : Document) (key : Text) : Except DocumentFault (List Json) :=
  match document.get? key with
  | none => .ok []
  | some (.arr items) => .ok items
  | some (.str t) => .ok (t.map fun c => .str [c])
  | some (.obj fields) => .ok (fields.map fun e => .str e.1)
  | some _ => .error .notAList

/-- The fields of a part. -/
def fieldsOf : Json → Except DocumentFault (OrderedMap Text Json)
  | .obj fields => .ok fields
  | _ => .error .notAnObject

end Document

end GraphSketch
