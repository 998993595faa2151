import GraphSketch.Mask

/-!
# Commands

A line `@ref settings` selects a node, `=rename(ref, label)` renames one and `=layout(kind)`
chooses a layout; every other line belongs to the structure of the graph, lines with an unknown
`=name(…)` among them. Commands are looked for in masked text, so that a sign at the beginning of
a line inside a label is no command, and quoted spans are put back into the parts of a command
afterwards. This is the Command Extractor of the specification (section D.2).

* `Request` is what a command asks for, and `Command` adds its text and the number of its line in
  the source.
* `Request.ofText?` reads what a trimmed line asks for; an argument that is missing is empty, and
  a layout without a kind is `tree`.
* `Command.detect` (`detect`) reads a line.
* `Command.extract` (`extract`) takes the command lines out of a masked text. Each leaves as many
  blank lines as it covers in the source, so that the lines that remain keep their numbers.

Nothing is checked here: whether there is such a node, a label or a layout is found out when the
command is carried out. What the extractor logs is left out.
-/

set_option autoImplicit false

namespace GraphSketch

/-- What a command asks for. -/
inductive Request where
  /-- Select a node and set its style. -/
  | select (ref params : Text)
  /-- Give a node a new label. -/
  | rename (ref label : Text)
  /-- Choose a layout. -/
  | layout (kind : Text)
  deriving DecidableEq, Repr

/-- A command line. -/
structure Command where
  request : Request
  /-- The line without the blanks around it. -/
  raw : Text
  /-- The number of the line in the source, from one. -/
  line : Nat
  deriving DecidableEq, Repr

/-- The layout that is chosen when none is named. -/
def defaultLayout : Text := "tree"

/-- The arguments between commas, without the blanks around them. -/
def splitArguments (t : Text) : List Text := (t.splitOn ',').map Text.trim

/-- What stands between the parentheses of a call of `name` that fills the text. -/
def call? (name : Text) (t : Text) : Option Text := do
  let rest ← Text.after? ('=' :: name) t
  match Text.trimStart rest with
  | '(' :: inner =>
    if inner.dropWhile (· ≠ ')') = [')'] then some (inner.takeWhile (· ≠ ')')) else none
  | _ => none

namespace Request

/-- The arguments of a call of `name` that fills the masked text. -/
def arguments? (mask : Mask) (name : Text) (t : Text) : Option (List Text) :=
  (call? name t).map fun inner => (splitArguments inner).map mask.restore

/-- The call `=rename(ref, label)`; arguments that are missing are empty. -/
def rename? (mask : Mask) (t : Text) : Option Request :=
  (arguments? mask "rename" t).map fun args => rename (args[0]?.getD []) (args[1]?.getD [])

/-- The call `=layout(kind)`. -/
def layout? (mask : Mask) (t : Text) : Option Request :=
  (arguments? mask "layout" t).map fun args =>
    let kind := args[0]?.getD []
    layout (if kind.isEmpty then defaultLayout else kind)

/-- The selection `@ref settings`, which has to be on one line. -/
def select? (mask : Mask) : Text → Option Request
  | '@' :: t =>
    let ref := t.takeWhile fun c => !isBlank c
    let params := t.dropWhile fun c => !isBlank c
    if ref.isEmpty || params.contains '\n' then none
    else some (select (mask.restore ref) (mask.restore (Text.trim params)))
  | _ => none

/-- What a masked text without blanks around it asks for. -/
def ofText? (mask : Mask) (t : Text) : Option Request :=
  rename? mask t <|> layout? mask t <|> select? mask t

end Request

namespace Command

/-- The command on a masked line, if there is one. -/
def detect (mask : Mask) (text : Text) (line : Nat) : Option Command :=
  (Request.ofText? mask (Text.trim text)).map fun request =>
    ⟨request, mask.restore (Text.trim text), line⟩

/-- The number of line feeds inside the quoted spans of a masked line. -/
def innerLines (mask : Mask) (text : Text) : Nat := (mask.restore text).count '\n'

/-- The commands on masked lines of which the first has the number `line`, and the lines with
line feeds in the place of each command. -/
def extractLines (mask : Mask) : Nat → List Text → List Command × List Text
  | _, [] => ([], [])
  | line, text :: texts =>
    let inner := innerLines mask text
    let (commands, kept) := extractLines mask (line + 1 + inner) texts
    match detect mask text line with
    | some command => (command :: commands, List.replicate inner '\n' :: kept)
    | none => (commands, text :: kept)

/-- The commands in a masked text, and the text that remains. -/
def extract (mask : Mask) (text : Text) : List Command × Text :=
  let (commands, kept) := extractLines mask 1 (Text.lines text)
  (commands, Text.unlines kept)

end Command

end GraphSketch
