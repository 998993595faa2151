import GraphSketch.Binary64.Shortest
import GraphSketch.Json.Basic
import GraphSketch.Text.Quoted

/-!
# Values as plain text

How a value reads where a diagram takes it as a word, such as a colour, a width or the key of a
node. A text stands for itself; inside an array or an object texts are quoted. Numbers are written
as in JSON, but for infinities and what is no number, which are `inf` and `nan`, and the truth
values and null are written as the words `True`, `False` and `None`.

* `Json.spelling` writes a value (`str`), and `Json.spellingInside` one inside another (`repr`).

Documents from sketches hold texts and whole numbers in those places. The other values matter to
documents from elsewhere, which `ir2code` renders as they are: nothing stops one from having a
list as a colour. Numbers with a fraction have the fewest digits that still read back as the same
number.
-/

set_option autoImplicit false

namespace GraphSketch

namespace Json

mutual

/-- A value inside another one. -/
def spellingInside : Json → Text
  | null => "None"
  | bool true => "True"
  | bool false => "False"
  | int n => Text.ofInt n
  | real x => x.toText "inf" "nan"
  | str t => t.quoted
  | arr [] => "[]"
  | arr (v :: items) => '[' :: (spellingInside v ++ spellingItems items ++ [']'])
  | obj [] => ['{', '}']
  | obj ((key, v) :: fields) =>
    '{' :: (key.quoted ++ ": " ++ spellingInside v ++ spellingFields fields ++ ['}'])

/-- The items of an array after the first. -/
def spellingItems : List Json → Text
  | [] => []
  | v :: items => ", " ++ spellingInside v ++ spellingItems items

/-- The fields of an object after the first. -/
def spellingFields : List (Text × Json) → Text
  | [] => []
  | (key, v) :: fields => ", " ++ key.quoted ++ ": " ++ spellingInside v ++ spellingFields fields

end

/-- A value as plain text. -/
def spelling : Json → Text
  | str t => t
  | v => spellingInside v

end Json

end GraphSketch
