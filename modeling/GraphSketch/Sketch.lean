import GraphSketch.Command
import GraphSketch.Graph.Basic

/-!
# Compiling a sketch

A sketch is compiled line by line: quoted spans are masked, command lines are taken out, and each
line that remains adds its operands as nodes and its arrows as edges. A line with a reference to
nothing adds nothing at all; it is reported, or ends the compilation if that is asked for. Numbers
given to labels on the way are kept in either case. This is the Syntax Manager of the
specification (section D.8).

* `Sketch.normalize` (`normalize_sketch`) brings line ends into one form and drops a mark at the
  beginning.
* `Sketch.segmentLabel` (`_segment_label`) is the label that one operand stands for: a quoted one
  is literal, any other may be a reference.
* `Sketch.drawLine` (`_parse_line`) draws one line; all its operands are resolved before anything
  is added. `Sketch.drawLines` is the loop over the lines.
* `Sketch.compile` (`parse`) turns a text into a `Diagram`, or stops with a fault: a reference to
  nothing where the compilation is strict, and a reference with more digits than `Numeral.limit`
  in any case. Its second part is the numbering, which changes either way.
* `Session` is a manager that compiles one text after another and keeps the last diagram.

Warnings and errors are kept as data and put into words by `message`. Logging is left out.
-/

set_option autoImplicit false

namespace GraphSketch

/-- Something in a sketch that is passed over. -/
inductive Warning where
  /-- The label of a line with nothing else is empty. -/
  | emptyLabel (line : Nat)
  /-- An arrow lacks an operand. -/
  | dangling (line : Nat) (arrow : Text) (column : Nat)
  deriving DecidableEq, Repr

/-- The warning in words. -/
def Warning.message : Warning → Text
  | emptyLabel line => "line " ++ Text.ofNat line ++ ": empty label ignored"
  | dangling line arrow column =>
    "line " ++ Text.ofNat line ++ ": dangling arrow '" ++ arrow ++ "' at column " ++
      Text.ofNat column

/-- A line that is left out for a reference to nothing. -/
structure LineError where
  line : Nat
  text : Text
  cause : Unresolved
  deriving DecidableEq, Repr

/-- What a sketch compiles to. -/
structure Diagram where
  nodes : List Node
  edges : List Edge
  commands : List Command
  errors : List LineError
  warnings : List Warning
  deriving DecidableEq, Repr

namespace Diagram

/-- The diagram of an empty sketch. -/
def empty : Diagram := ⟨[], [], [], [], []⟩

/-- The labels of the nodes in their order. -/
def nodeOrder (d : Diagram) : List Text :=
  (d.nodes.mergeSort fun a b => a.order ≤ b.order).map (·.label)

/-- The node with the given label. -/
def node? (d : Diagram) (label : Text) : Option Node := d.nodes.find? (·.label = label)

end Diagram

/-- How sketches are compiled. -/
structure Settings where
  /-- Whether labels may ask for the shapes of the extended set. -/
  extended : Bool
  /-- Whether a reference to nothing ends the compilation. -/
  strict : Bool
  deriving DecidableEq, Repr

/-- The shapes that labels may ask for. -/
def Settings.shapes (settings : Settings) : List Shape :=
  if settings.extended then Shape.extended else Shape.basic

namespace Sketch

/-- Every line end as one line feed. -/
def unifyLineEnds : Text → Text
  | '\r' :: '\n' :: cs => '\n' :: unifyLineEnds cs
  | '\r' :: cs => '\n' :: unifyLineEnds cs
  | c :: cs => c :: unifyLineEnds cs
  | [] => []

/-- The text with one form of line end and without a byte-order mark before it. -/
def normalize (t : Text) : Text :=
  match unifyLineEnds t with
  | '\ufeff' :: cs => cs
  | cs => cs

/-- The label that a segment of a masked line names. A quoted span is a label as it stands and
never a reference. -/
def segmentLabel (mask : Mask) (numbering : Numbering) (segment : Text) :
    Except ResolveFault Text :=
  if mask.isPlaceholder segment then .ok (Text.trim (mask.restore segment))
  else numbering.resolve (Text.trim (mask.restore segment))

/-- The labels that the segments of a masked line name, none where there is no text. -/
def segmentLabels (mask : Mask) (numbering : Numbering) :
    List Text → Except ResolveFault (List (Option Text))
  | [] => .ok []
  | segment :: segments =>
    match segmentLabel mask numbering segment with
    | .error fault => .error fault
    | .ok label => (segmentLabels mask numbering segments).map (label.nonEmpty? :: ·)

/-- A warning for each arrow that lacks an operand. -/
def danglingWarnings (line : Nat) (chain : Chain) (labels : List (Option Text)) : List Warning :=
  ((links chain.arrows labels).zip chain.positions).filterMap fun
    | ((_, some _, some _), _) => none
    | ((arrow, _, _), position) => some (.dangling line arrow.raw (position + 1))

/-- Draws a masked line that is not blank, with the number it has in the source. -/
def drawLine (shapes : List Shape) (mask : Mask) (canvas : Canvas) (line : Nat) (text : Text) :
    Except ResolveFault (Canvas × List Warning) :=
  let chain := Chain.ofLine text
  (segmentLabels mask canvas.numbering chain.operands).map fun labels =>
    let drawn := (labels.filterMap id).foldl (Canvas.addNode shapes) canvas
    if chain.arrows.isEmpty then
      (drawn, if labels.all Option.isNone then [.emptyLabel line] else [])
    else
      (drawn.connect chain.arrows labels, danglingWarnings line chain labels)

/-- How far the lines of a sketch have been drawn. -/
structure Drawing where
  canvas : Canvas
  warnings : List Warning
  errors : List LineError

/-- Draws masked lines of which the first has the number `line`. If a fault ends the drawing it
comes with what was drawn before. -/
def drawLines (settings : Settings) (mask : Mask) :
    Nat → List Text → Drawing → Drawing × Option ResolveFault
  | _, [], drawing => (drawing, none)
  | line, text :: texts, drawing =>
    let next := line + 1 + Command.innerLines mask text
    if Text.isBlankText text then
      drawLines settings mask next texts drawing
    else
      match drawLine settings.shapes mask drawing.canvas line text with
      | .ok (canvas, warnings) =>
        drawLines settings mask next texts
          { drawing with canvas := canvas, warnings := drawing.warnings ++ warnings }
      | .error (.oversized fault) => (drawing, some (.oversized fault))
      | .error (.unresolved cause) =>
        if settings.strict then
          (drawing, some (.unresolved cause))
        else
          drawLines settings mask next texts
            { drawing with
              errors := drawing.errors ++ [⟨line, Text.trim (mask.restore text), cause⟩] }

/-- Compiles a sketch. The numbering comes back with the numbers given to new labels, also when
a fault has ended the compilation. -/
def compile (settings : Settings) (numbering : Numbering) (t : Text) :
    Except ResolveFault Diagram × Numbering :=
  let source := normalize t
  let mask := Mask.ofText source
  let (commands, structural) := Command.extract mask (Mask.conceal source)
  let (drawing, fault?) :=
    drawLines settings mask 1 (Text.lines structural) ⟨Canvas.start numbering, [], []⟩
  let result : Except ResolveFault Diagram :=
    match fault? with
    | some fault => .error fault
    | none => .ok {
        nodes := drawing.canvas.nodes
        edges := drawing.canvas.edges
        commands := commands
        errors := drawing.errors
        warnings := drawing.warnings }
  (result, drawing.canvas.numbering)

end Sketch

/-- A numbering that is kept from one sketch to the next, and what the last one compiled to. -/
structure Session where
  settings : Settings
  numbering : Numbering
  last : Diagram

namespace Session

/-- A session before its first sketch. -/
def start (settings : Settings) (numbering : Numbering) : Session :=
  ⟨settings, numbering, Diagram.empty⟩

/-- Compiles a sketch in a session. When that fails the last diagram stays. -/
def compile (session : Session) (t : Text) : Except ResolveFault Diagram × Session :=
  match Sketch.compile session.settings session.numbering t with
  | (.ok diagram, numbering) =>
    (.ok diagram, { session with numbering := numbering, last := diagram })
  | (.error fault, numbering) => (.error fault, { session with numbering := numbering })

end Session

end GraphSketch
