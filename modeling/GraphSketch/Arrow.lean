import GraphSketch.Text.Blank
import GraphSketch.Text.Cut

/-!
# Arrows and chains

A line of a sketch is a chain: operands with arrows between them. The arrows are `->`, `<-` and
`<->`, and with a label `-label->` and `<-label->`. This is the Arrow Tokenizer of the
specification (section D.3).

* `Arrow.at?` finds the arrow at the beginning of a text. It tries the forms in the order of
  `ARROW_PATTERN`: a labelled arrow goes before a plain one, and one that points both ways before
  one that points one way. No label holds an angle bracket, and none of `-label->` a dash.
* `Chain.ofLine` (`tokenize`, `split`) cuts a line at its arrows, from left to right and without
  overlap; `Chain.operands` are the trimmed gaps between them, one more than there are arrows.
* `Chain.positions` says how many characters of the line come before each arrow; columns in
  warnings are counted from these.
* `Direction` says which way an arrow points. What edges it makes is in `Graph.Basic`.

A label is the text between the dashes without the blanks at its ends (`_clean_edge_label`), and
an arrow with nothing but blanks there has none.
-/

set_option autoImplicit false

namespace GraphSketch

/-- Where an arrow points. -/
inductive Direction where
  | forward
  | backward
  | bidirectional
  deriving DecidableEq, Repr

/-- The name of a direction. -/
def Direction.name : Direction → Text
  | forward => "forward"
  | backward => "backward"
  | bidirectional => "bidirectional"

/-- The direction with the given name. -/
def Direction.ofName? (name : Text) : Option Direction :=
  [forward, backward, bidirectional].find? (·.name = name)

/-- An arrow as it stands in a line. -/
structure Arrow where
  direction : Direction
  /-- The label without blanks around it, if anything is left of it. -/
  label : Option Text
  /-- The spelling. -/
  raw : Text
  deriving DecidableEq, Repr

namespace Arrow

/-- A label without the blanks around it; a blank one counts as none. -/
def cleanLabel (t : Text) : Option Text := t.trim.nonEmpty?

/-- Whether a character may stand in the label of an arrow that points both ways. -/
def isBothLabelChar (c : Char) : Bool := c ≠ '<' && c ≠ '>'

/-- Whether a character may stand in the label of an arrow that points forward. -/
def isForwardLabelChar (c : Char) : Bool := c ≠ '-' && c ≠ '<' && c ≠ '>'

/-- The arrow `<-label->`, which ends at the first angle bracket after its beginning. The label
has at least one character. -/
def labelledBoth? : Text → Option Arrow
  | '<' :: '-' :: t =>
    let run := t.takeWhile isBothLabelChar
    match t.dropWhile isBothLabelChar with
    | '>' :: _ =>
      if 2 ≤ run.length ∧ run.getLast? = some '-' then
        some ⟨.bidirectional, cleanLabel run.dropLast, "<-" ++ run ++ ">"⟩
      else
        none
    | _ => none
  | _ => none

/-- The arrow `-label->`, which ends at the first dash or angle bracket after its beginning. The
label has at least one character. -/
def labelledForward? : Text → Option Arrow
  | '-' :: t =>
    let run := t.takeWhile isForwardLabelChar
    match t.dropWhile isForwardLabelChar with
    | '-' :: '>' :: _ =>
      if run.isEmpty then none else some ⟨.forward, cleanLabel run, "-" ++ run ++ "->"⟩
    | _ => none
  | _ => none

/-- An arrow without label, given its spelling. -/
def plain? (direction : Direction) (raw : Text) (t : Text) : Option Arrow :=
  if raw.isPrefixOf t then some ⟨direction, none, raw⟩ else none

/-- The arrow at the beginning of a text. -/
def at? (t : Text) : Option Arrow :=
  labelledBoth? t <|> plain? .bidirectional "<->" t <|> labelledForward? t <|>
    plain? .forward "->" t <|> plain? .backward "<-" t

/-- The arrow at the beginning of a text, with its length. -/
def token? (t : Text) : Option (Arrow × Nat) := (at? t).map fun arrow => (arrow, arrow.raw.length)

end Arrow

/-- A line cut at its arrows. -/
abbrev Chain := Cut Arrow

namespace Chain

/-- The chain that a line spells. -/
def ofLine (line : Text) : Chain := line.cut Arrow.token?

/-- The arrows in order. -/
def arrows (chain : Chain) : List Arrow := chain.tokens

/-- The operands in order, without the blanks around them; one that is missing is empty. -/
def operands (chain : Chain) : List Text := chain.gaps.map Text.trim

/-- The places at which arrows begin when the first stands `start` characters into the line. -/
def positionsFrom : Nat → List (Arrow × Text) → List Nat
  | _, [] => []
  | start, (arrow, gap) :: rest =>
    start :: positionsFrom (start + arrow.raw.length + gap.length) rest

/-- The number of characters before each arrow. -/
def positions (chain : Chain) : List Nat := positionsFrom chain.first.length chain.rest

end Chain

end GraphSketch
