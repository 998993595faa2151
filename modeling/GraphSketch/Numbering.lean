import GraphSketch.Json.Basic
import GraphSketch.OrderedMap
import GraphSketch.Reference

/-!
# The numbers of labels

A numbering gives each label a number when the label is first seen and never takes it back, so
that `:N` keeps its meaning while a sketch grows. It is the Identifier Manager of the
specification (section D.4): two tables, from labels to numbers and from numbers to labels, and a
counter, which begins at one and only grows until everything is forgotten. Any number of sessions
may share one numbering, and it can be saved to a file and loaded again (section K.1).

* `Numbering.assign` (`assign_id`) gives a label its number, and `Numbering.resolve`
  (`resolve_reference`) follows a reference; a text that is no reference is a label itself.
* `Numbering.entries` (`entries`, and the `nodes` of `state`) lists the labels by their numbers.
* `Numbering.toJson` and `Numbering.ofJson` (`to_dict`, `from_dict`) save and load. The second
  table is made anew from the first, and the counter comes to lie above all loaded numbers;
  numbers that are zero or negative are loaded as they are.
* `LoadFault` says why a saved value cannot be loaded.

A saved value may be any JSON value. The whole numbers in it are read like the runtime reads them,
from numbers, truth values and texts. Clearing a numbering (`clear`) puts `Numbering.empty` in its
place.
-/

set_option autoImplicit false

namespace GraphSketch

/-- The numbers given to labels so far. -/
structure Numbering where
  numberOf : OrderedMap Text Int
  labelOf : OrderedMap Int Text
  /-- The number that the next new label gets. -/
  next : Int
  deriving DecidableEq, Repr

/-- Why a saved numbering cannot be loaded. -/
inductive LoadFault where
  /-- A number is written in a text that is no numeral, or too long a one. -/
  | numeral (fault : NumeralFault) (text : Text)
  /-- A number is missing, or is an array or an object. -/
  | notANumber (kind : Json.Kind)
  | infinite
  | undefined
  /-- The saved value is not an object. -/
  | notAnObject (kind : Json.Kind)
  /-- The table of labels is not an object. -/
  | notATable (kind : Json.Kind)
  deriving DecidableEq, Repr

/-- The fault in words. -/
def LoadFault.message : LoadFault → Text
  | numeral fault text => fault.message text
  | notANumber kind =>
    "int() argument must be a string, a bytes-like object or a real number, not '" ++
      kind.name ++ "'"
  | infinite => "cannot convert float infinity to integer"
  | undefined => "cannot convert float NaN to integer"
  | notAnObject kind => kind.lacks "get"
  | notATable kind => kind.lacks "items"

namespace Numbering

/-- The numbering without labels; numbers begin with one. -/
def empty : Numbering := ⟨[], [], 1⟩

/-- The number of labels. -/
def size (m : Numbering) : Nat := m.numberOf.length

/-- The number of a label. -/
def number? (m : Numbering) (label : Text) : Option Int := m.numberOf.get? label

/-- Whether a label has a number. -/
def has (m : Numbering) (label : Text) : Bool := m.numberOf.has label

/-- Gives the label the next number unless it has one; the label's number comes with it. -/
def assign (m : Numbering) (label : Text) : Numbering × Int :=
  match m.number? label with
  | some n => (m, n)
  | none =>
    (⟨m.numberOf.put label m.next, m.labelOf.put m.next label, m.next + 1⟩, m.next)

/-- The label that a text names: a reference is looked up, and anything else is a label
itself. -/
def resolve (m : Numbering) (t : Text) : Except ResolveFault Text :=
  if isReference t then
    match Reference.number t with
    | .error fault => .error (.oversized fault)
    | .ok none => .error (.unresolved ⟨t, none⟩)
    | .ok (some n) =>
      match m.labelOf.get? (n : Int) with
      | some label => .ok label
      | none => .error (.unresolved ⟨t, some n⟩)
  else
    .ok t

/-- The labels with their numbers, smallest number first. -/
def entries (m : Numbering) : List (Text × Int) :=
  m.numberOf.mergeSort fun a b => a.2 ≤ b.2

/-! ## Saving and loading -/

/-- The saved form. -/
def toJson (m : Numbering) : Json :=
  .obj [
    ("labelToId", .obj (m.numberOf.map fun e => (e.1, .int e.2))),
    ("idToLabel", .obj (m.labelOf.map fun e => (Text.ofInt e.1, .str e.2))),
    ("nextId", .int m.next)]

/-- Whether the numbers of all labels can be written. -/
def isWritable (m : Numbering) : Bool := (OrderedMap.keys m.labelOf).all Numeral.isWritable

/-- The integer that a saved number stands for: a fraction is dropped, toward zero, a truth value
counts as one or zero, and a string is read as a numeral. -/
def savedInteger : Json → Except LoadFault Int
  | .int n => .ok n
  | .real (.finite negative significand exponent) =>
    .ok (Binary64.integerPart negative significand exponent)
  | .real (.infinite _) => .error .infinite
  | .real .notANumber => .error .undefined
  | .bool b => .ok (if b then 1 else 0)
  | .str t => (Numeral.toInt t).mapError fun fault => .numeral fault t
  | v => .error (.notANumber v.kind)

/-- The numbering with the saved label entered; of two labels with one number the last is the
one that the number refers to. -/
def enter (m : Numbering) (entry : Text × Json) : Except LoadFault Numbering :=
  (savedInteger entry.2).map fun n =>
    { m with numberOf := m.numberOf.put entry.1 n, labelOf := m.labelOf.put n entry.1 }

/-- The saved labels; a table that counts as absent is empty. -/
def savedLabels (saved : Json) : Except LoadFault (List (Text × Json)) :=
  match saved.field? "labelToId" with
  | some (.obj fields) => .ok fields
  | some table => if table.isAbsent then .ok [] else .error (.notATable table.kind)
  | none => .ok []

/-- The saved counter; one that counts as absent is one. -/
def savedNext (saved : Json) : Except LoadFault Int :=
  match saved.field? "nextId" with
  | some n => if n.isAbsent then .ok 1 else savedInteger n
  | none => .ok 1

/-- The largest number of a label, and zero when there are no labels. -/
def highest (m : Numbering) : Int :=
  match OrderedMap.keys m.labelOf with
  | [] => 0
  | n :: ns => ns.foldl max n

/-- The numbering that was saved. A value that counts as absent gives the empty one. -/
def ofJson (saved : Json) : Except LoadFault Numbering := do
  if saved.isAbsent then
    pure empty
  else
    match saved with
    | .obj _ =>
      let labels ← savedLabels saved
      let m ← labels.foldlM enter empty
      let next ← savedNext saved
      pure { m with next := max next (m.highest + 1) }
    | _ => .error (.notAnObject saved.kind)

end Numbering

end GraphSketch
