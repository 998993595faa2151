import GraphSketch.Cli.Ending
import GraphSketch.Json.Reader
import GraphSketch.Picture.Render

/-!
# Rendering documents

The program `ir2code` reads a graph document from a file or from standard input and writes it in a
diagram language (section K.4 of the specification). An unknown layout is reported with the exit
code 1; every other fault ends the program where it is, and its message is the runtime's own.

* `RenderOptions` are the options: where the document is read from, the language, a layout and an
  orientation that go before those of the document, and where the code is written to.
* `Render.source` and `Render.documentOf` (`read_document`) are the text and the document that is
  read, and `Render.orient` puts the orientation in.
* `Render.deliver` writes the code to a file or prints it.
* `Render.run` (`main`) is the program.

The layouts that can be asked for on the command line are the known ones, so an unknown layout
comes from the document. A text that is JSON but no object is a fault of its own kind
(`notADocument`, or `notOrientable` where an orientation is to be put in).
-/

set_option autoImplicit false

namespace GraphSketch

/-- Why a document is not rendered. -/
inductive RenderFault where
  /-- A document is to be read from a file that is not named. -/
  | noInput
  | file (fault : FileFault)
  | json (fault : Json.Fault) (text : Text)
  /-- The text is JSON, but no object. -/
  | notADocument
  /-- What is no object is to get an orientation. -/
  | notOrientable
  | document (fault : DocumentFault)

/-- The fault in words. -/
def RenderFault.message : RenderFault → Text
  | noInput => "the file of the document is not named"
  | file fault => fault.message
  | json fault text => fault.message text
  | notADocument => "the document is not an object"
  | notOrientable => "the orientation of what is not an object cannot be set"
  | document fault => fault.message

/-- How a document is rendered. -/
structure RenderOptions where
  /-- The file to read, if it is named; a dash is standard input. -/
  input : Option Text
  format : Format
  layout : Option Text
  orientation : Option Text
  /-- The file to write, if the code is not to be printed. -/
  output : Option Text

namespace Render

/-- What the program takes on its command line. -/
def grammar : Grammar where
  program := "ir2code"
  options := [
    (CommandOption.value ["--in"]).mandatory,
    (CommandOption.choice ["--fmt"] (Format.all.map Format.name)).mandatory,
    .choice ["--layout"] (Layout.all.map Layout.name),
    .choice ["--orientation"] (Orientation.all.map Orientation.name),
    .value ["--out"]]
  operands := []

/-- The options on a command line. -/
def optionsOf (arguments : Arguments) : RenderOptions where
  input := arguments.value? "--in"
  format := ((arguments.value? "--fmt").bind Format.ofName?).getD .dot
  layout := arguments.value? "--layout"
  orientation := arguments.value? "--orientation"
  output := (arguments.value? "--out").bind Text.nonEmpty?

/-- The text of the document. -/
def source (options : RenderOptions) (stdin : Text) (tree : FileTree) : Except RenderFault Text :=
  match options.input with
  | none => .error .noInput
  | some ['-'] => .ok stdin
  | some t => ((tree.read (Path.ofText t)).mapError .file).map Sketch.unifyLineEnds

/-- The document with the orientation that is asked for. -/
def orient (options : RenderOptions) (document : Document) : Document :=
  match options.orientation with
  | none => document
  | some t => document.put "orientation" (.str t)

/-- The document in a text, with the orientation that is asked for. -/
def documentOf (options : RenderOptions) (t : Text) : Except RenderFault Document :=
  match Json.read t with
  | .error fault => .error (.json fault t)
  | .ok (.obj fields) => .ok (orient options fields)
  | .ok _ => .error (if options.orientation.isSome then .notOrientable else .notADocument)

/-- Puts the code where it is to go. -/
def deliver (options : RenderOptions) (code : Text) (tree : FileTree) :
    Except RenderFault Ending :=
  match options.output with
  | none => .ok (.done code tree)
  | some path =>
    ((tree.write (Path.ofText path) code).mapError .file).map fun tree => .done [] tree

/-- Runs the program with options. -/
def runWith (options : RenderOptions) (stdin : Text) (tree : FileTree) :
    Except RenderFault Ending := do
  let text ← source options stdin tree
  let document ← documentOf options text
  match Document.render document options.format options.layout with
  | .error (.unknownLayout kind) => pure (.failed [] (Layout.unknownMessage kind) tree)
  | .error fault => .error (.document fault)
  | .ok code => deliver options code tree

/-- Runs the program with a command line. -/
def run (commandLine : List Text) (stdin : Text) (tree : FileTree) : Except RenderFault Ending :=
  match grammar.read commandLine with
  | .error fault => .ok (.ofUsageFault grammar.program fault tree)
  | .ok arguments => runWith (optionsOf arguments) stdin tree

end Render

end GraphSketch
