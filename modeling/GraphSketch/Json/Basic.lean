import GraphSketch.Binary64.Basic
import GraphSketch.OrderedMap

/-!
# JSON values

A value as it is read from a file or written to one. Integers are unbounded and apart from numbers
with a fraction or an exponent, which are binary numbers of double precision; the fields of an
object keep their order.

* `Json` is the type of values and `Json.Kind` that of their kinds; `Kind.name` and `Kind.lacks`
  are what messages call a kind and say of it when a part is missing.
* `Json.isAbsent` holds of the values that count as absent: null, false, zero and the empty ones.
  Programs leave such values out, or put a default in their place.
* `Json.textField`, `Json.intField` and `Json.listField` are fields with values of one kind.
* `Json.field?` looks up a field of an object.

Numbers that are not finite are values too, because files may hold them. Nothing here says that no
name is used twice in an object; `Json.read` makes objects that have each name once, and documents
are built so.
-/

set_option autoImplicit false

namespace GraphSketch

/-- A JSON value. -/
inductive Json where
  | null
  | bool (b : Bool)
  | int (n : Int)
  | real (x : Binary64)
  | str (t : Text)
  | arr (items : List Json)
  | obj (fields : List (Text × Json))
  deriving Repr, Inhabited

namespace Json

/-- Values that count as absent where a setting is optional. -/
def isAbsent : Json → Bool
  | null => true
  | bool b => !b
  | int n => n = 0
  | real x => x.isZero
  | str t => t.isEmpty
  | arr items => items.isEmpty
  | obj fields => fields.isEmpty

/-- A kind of values. -/
inductive Kind where
  | null
  | bool
  | int
  | real
  | str
  | arr
  | obj
  deriving DecidableEq, Repr

/-- The name of a kind in messages. -/
def Kind.name : Kind → Text
  | null => "NoneType"
  | bool => "bool"
  | int => "int"
  | real => "float"
  | str => "str"
  | arr => "list"
  | obj => "dict"

/-- The kind of a value. -/
def kind : Json → Kind
  | null => .null
  | bool _ => .bool
  | int _ => .int
  | real _ => .real
  | str _ => .str
  | arr _ => .arr
  | obj _ => .obj

/-- What is said of a value that has no part with the given name. -/
def Kind.lacks (kind : Kind) (part : Text) : Text :=
  "'" ++ kind.name ++ "' object has no attribute '" ++ part ++ "'"

/-- A field that holds a text. -/
def textField (key value : Text) : Text × Json := (key, str value)

/-- A field that holds an integer. -/
def intField (key : Text) (value : Int) : Text × Json := (key, int value)

/-- A field that holds a list. -/
def listField (key : Text) (items : List Json) : Text × Json := (key, arr items)

/-- The value under a key of an object; other values have no fields. -/
def field? (key : Text) : Json → Option Json
  | obj fields => OrderedMap.get? fields key
  | _ => none

end Json

end GraphSketch
