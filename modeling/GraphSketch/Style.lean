import GraphSketch.Numeral
import GraphSketch.Text.WordChar

/-!
# Style settings

The settings `fill:colour`, `border:colour` and `width:number` may stand anywhere in the text that
follows a selection, in any order and with anything between them; of each kind the first one
counts. This is `parse_style_params` of the Command Extractor (section D.2 of the specification).

* `Style.read` finds the settings in a text.
* `setting?` searches for one of them: its name, a colon, blanks, and the longest run of
  characters that its value may hold. A place where no such run follows is passed over, and the
  search goes on.
* `isColourChar` are the characters of colours: number signs and word characters of any script.

The name is looked for anywhere, so it is found inside of a longer word too. A width is a number
of any script's decimal digits; one with more digits than `Numeral.limit` is refused, and the
refusal carries on to whoever runs the command. No colour is checked against the colours that
there are, and a setting that is not understood is not reported.
-/

set_option autoImplicit false

namespace GraphSketch

/-- The settings of a node. -/
structure Style where
  fill : Option Text
  stroke : Option Text
  width : Option Nat
  deriving DecidableEq, Repr

/-- Whether a character may stand in a colour. -/
def isColourChar (c : Char) : Bool := c = '#' || isWordChar c

/-- The value of the setting called `name`, if the text begins with one. -/
def settingAt? (name : Text) (accept : Char → Bool) (t : Text) : Option Text := do
  let rest ← Text.after? (name ++ ":") t
  let value := (Text.trimStart rest).takeWhile accept
  if value.isEmpty then none else some value

/-- The value of the first setting called `name`. -/
def setting? (name : Text) (accept : Char → Bool) : Text → Option Text
  | [] => none
  | c :: cs => settingAt? name accept (c :: cs) <|> setting? name accept cs

namespace Style

/-- No settings. -/
def empty : Style := ⟨none, none, none⟩

/-- The settings in a text. The width must not have more digits than are read. -/
def read (params : Text) : Except OversizedNumeral Style :=
  let fill := setting? "fill" isColourChar params
  let stroke := setting? "border" isColourChar params
  match setting? "width" isDecimalDigit params with
  | none => .ok ⟨fill, stroke, none⟩
  | some digits => (Numeral.ofDigits (digits.filterMap digitValue?)).map fun n => ⟨fill, stroke, n⟩

end Style

end GraphSketch
