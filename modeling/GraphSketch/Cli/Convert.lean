import GraphSketch.Cli.Ending
import GraphSketch.Json.Reader
import GraphSketch.Json.Writer
import GraphSketch.Picture.Render

/-!
# Converting sketches

The program `convert` turns a sketch file into a graph document beside it. It can run the commands
of the sketch, write code in a diagram language next to the document, and keep the numbers of
labels in a file from one run to the next (sections K.1 and K.4 of the specification).

* `Convert.document` makes the document of a sketch, without touching any file; with
  `--run-commands` its commands are run on it, and what they did is listed in it.
* `Convert.file` (`convert_file`) converts one file: it reads the sketch, makes the document and
  its directory, and writes the code before the document.
* `Convert.loadNumbering` and `Convert.saveNumbering` (`load_identifiers`, `save_identifiers`)
  keep numbers in a file, and `Convert.single` is a run that does so.
* `Convert.batch` (`batch_convert`) converts all sketches of a directory in the order of their
  names, each with a numbering of its own, and sums up.
* `Convert.run` (`main`) is the program.

A `Shell` computation stops at the first fault and leaves the files as they are then. A fault is
told by its message; in a batch it costs the one file only. Logging is left out, and with it
`--verbose` has no effect.
-/

set_option autoImplicit false

namespace GraphSketch

/-- Why a sketch is not converted. -/
inductive ConvertFault where
  | file (fault : FileFault)
  | json (fault : Json.Fault) (text : Text)
  | load (fault : LoadFault)
  /-- A numbering is to be loaded from a file that is not named. -/
  | unnamedIds
  | resolve (fault : ResolveFault)
  | oversized (fault : OversizedNumeral)
  | document (fault : DocumentFault)
  /-- A path without a name is to get a suffix. -/
  | noName (path : Path)
  /-- An integer has too many digits to be written. -/
  | unwritable

/-- The fault in words. -/
def ConvertFault.message : ConvertFault → Text
  | file fault => fault.message
  | json fault text => fault.message text
  | load fault => fault.message
  | unnamedIds => Json.Kind.lacks .arr "exists"
  | resolve (.oversized fault) => fault.message
  | resolve (.unresolved u) => u.message
  | oversized fault => fault.message
  | document fault => fault.message
  | noName path => "PosixPath(" ++ path.toText.quoted ++ ") has an empty name"
  | unwritable => Numeral.limitMessage []

/-- The file that keeps the numbering. -/
inductive IdsFile where
  /-- The numbering is not kept. -/
  | none
  /-- The numbering is asked for, but no file is named. -/
  | unnamed
  | named (path : Path)
  deriving DecidableEq, Repr

/-- The path of the file, if it has one. -/
def IdsFile.path? : IdsFile → Option Path
  | named path => some path
  | _ => Option.none

/-- How sketches are converted. -/
structure ConvertOptions where
  input : Path
  output : Option Path
  /-- Convert the sketches of a directory. -/
  batch : Bool
  /-- Write code in a diagram language too. -/
  emit : Option Format
  /-- Run the commands of the sketch. -/
  runCommands : Bool
  ids : IdsFile
  /-- Begin with the empty numbering. -/
  clearIds : Bool
  /-- Fail at a reference to nothing. -/
  strict : Bool
  deriving DecidableEq, Repr

namespace Convert

/-- A computation that changes files and may fail; what it changed before it failed stays. -/
abbrev Shell := ExceptT ConvertFault (StateM FileTree)

/-- The text of a file with line feeds at the ends of lines. -/
def readText (path : Path) : Shell Text := do
  match (← get).read path with
  | .ok t => pure (Sketch.unifyLineEnds t)
  | .error fault => throw (.file fault)

/-- Changes the files. -/
def change (f : FileTree → Except FileFault FileTree) : Shell Unit := do
  match f (← get) with
  | .ok tree => set tree
  | .error fault => throw (.file fault)

/-- Writes a text to a file. -/
def writeText (path : Path) (t : Text) : Shell Unit := change fun tree => tree.write path t

/-- Writes a value to a file. At an integer that cannot be written the text breaks off. -/
def writeJson (path : Path) (v : Json) : Shell Unit := do
  writeText path (Json.beforeMark v)
  if !Json.isWritable v then throw .unwritable

/-! ## One sketch -/

/-- A document with the actions of the commands that were run on it. -/
def ranDocument (nodes : List Node) (requests : List Request) (document : Document) :
    Except ConvertFault Document :=
  match Document.sink.executeAll nodes ([], document) requests with
  | (_, .error fault) => .error (.oversized fault)
  | ((actions, document), .ok _) =>
    .ok (document.put "actions" (.arr (actions.map Action.toJson)))

/-- The diagram and the document of a sketch, and the numbering after it. -/
def document (options : ConvertOptions) (numbering : Numbering) (title text : Text) :
    Except ConvertFault (Diagram × Document × Numbering) := do
  match Sketch.compile ⟨true, options.strict⟩ numbering text with
  | (.error fault, _) => .error (.resolve fault)
  | (.ok diagram, numbering) =>
    let built := Document.ofDiagram title none diagram
    if options.runCommands && !diagram.commands.isEmpty then
      let requests := diagram.commands.map (·.request)
      (ranDocument diagram.nodes requests built).map fun ran => (diagram, ran, numbering)
    else
      pure (diagram, built, numbering)

/-- The path with another suffix. -/
def withSuffix (path : Path) (suffix : Text) : Shell Path :=
  match path.withSuffix? suffix with
  | some path => pure path
  | none => throw (.noName path)

/-- Writes the code of a document next to the output; a warning may come into the document. -/
def writeCode (format : Format) (output : Path) (document : Document) : Shell Document := do
  let side ← withSuffix output format.suffix
  if !Json.isWritable (.obj document) then throw .unwritable
  match document.emit format with
  | (.error fault, _) => throw (.document fault)
  | (.ok code, document) =>
    writeText side code
    pure document

/-- Writes a document and its code. -/
def store (emit : Option Format) (output : Path) (document : Document) : Shell Unit := do
  change fun tree => tree.makeDirs output.parent
  let document ←
    match emit with
    | none => pure document
    | some format => writeCode format output document
  writeJson output (.obj document)

/-- Where the document of a file goes when nothing else is said. -/
def jsonPath (input : Path) : Shell Path := withSuffix input ".json"

/-- Converts a file. -/
def file (options : ConvertOptions) (numbering : Numbering) (input : Path)
    (output : Option Path) : Shell (Diagram × Numbering) := do
  let text ← readText input
  let output ←
    match output with
    | some output => pure output
    | none => jsonPath input
  match document options numbering input.stem text with
  | .error fault => throw fault
  | .ok (diagram, document, numbering) =>
    store options.emit output document
    pure (diagram, numbering)

/-! ## The numbering in a file -/

/-- The numbering in a file; where there is no file, or it is not to be read, the empty one. -/
def loadNumbering (options : ConvertOptions) : Shell Numbering := do
  match options.clearIds, options.ids with
  | true, _ | _, .none => pure Numbering.empty
  | false, .unnamed => throw .unnamedIds
  | false, .named path =>
    match (← get).find? path with
    | .error fault => throw (.file fault)
    | .ok none => pure Numbering.empty
    | .ok (some _) =>
      let text ← readText path
      match Json.read text with
      | .error fault => throw (.json fault text)
      | .ok saved =>
        match Numbering.ofJson saved with
        | .error fault => throw (.load fault)
        | .ok numbering => pure numbering

/-- Writes a numbering to a file. If the number of a label cannot be written, the file is left
empty. -/
def writeNumbering (path : Path) (numbering : Numbering) : Shell Unit := do
  change fun tree => tree.makeDirs path.parent
  if numbering.isWritable then
    writeJson path numbering.toJson
  else
    writeText path []
    throw .unwritable

/-- Keeps the numbering in its file, if it has one. -/
def saveNumbering (options : ConvertOptions) (numbering : Numbering) : Shell Unit :=
  match options.ids.path? with
  | none => pure ()
  | some path => writeNumbering path numbering

/-- Converts one file with the numbering that is kept for it. -/
def single (options : ConvertOptions) : Shell Diagram := do
  let numbering ← loadNumbering options
  let (diagram, numbering) ← file options numbering options.input options.output
  saveNumbering options numbering
  pure diagram

/-- A line of a report. -/
def line (t : Text) : Text := t ++ "\n"

/-- What is said of one converted file. -/
def singleReport (options : ConvertOptions) (diagram : Diagram) : Text :=
  let output := (options.output <|> options.input.withSuffix? ".json").getD Path.here
  line [] ++ line ("✓ Converted " ++ options.input.toText) ++
    line ("  Nodes: " ++ Text.ofNat diagram.nodes.length) ++
    line ("  Edges: " ++ Text.ofNat diagram.edges.length) ++
    line ("  Commands: " ++ Text.ofNat diagram.commands.length) ++
    (diagram.errors.flatMap fun e =>
      line ("  ⚠ line " ++ Text.ofNat e.line ++ ": " ++ e.message)) ++
    line ("  Output: " ++ output.toText)

/-! ## All sketches of a directory -/

/-- How much a document holds. -/
structure Counts where
  nodes : Nat
  edges : Nat
  commands : Nat
  errors : Nat
  deriving DecidableEq, Repr

/-- What a diagram holds. -/
def Counts.ofDiagram (diagram : Diagram) : Counts :=
  ⟨diagram.nodes.length, diagram.edges.length, diagram.commands.length, diagram.errors.length⟩

/-- What became of a file. -/
inductive Report where
  | failed (message : Text)
  /-- There was nothing in the file. -/
  | blank
  | converted (counts : Counts)
  deriving DecidableEq, Repr

namespace Report

/-- Whether a file gave a document with nodes. -/
def isSuccess : Report → Bool
  | converted counts => counts.nodes ≠ 0
  | _ => false

/-- Whether a file could not be converted. -/
def isFailed : Report → Bool
  | failed _ => true
  | _ => false

/-- Whether a file gave no nodes. -/
def isEmpty : Report → Bool
  | blank => true
  | converted counts => counts.nodes = 0
  | failed _ => false

/-- The lines about a file. -/
def message : Report → Text
  | failed reason => line ("  ✗ Failed: " ++ reason)
  | blank => line "  ⊘ Skipped: empty file"
  | converted counts =>
    line ("  Nodes: " ++ Text.ofNat counts.nodes ++ ", Edges: " ++ Text.ofNat counts.edges ++
      ", Commands: " ++ Text.ofNat counts.commands) ++
    (if counts.errors = 0 then []
     else line ("  Skipped lines: " ++ Text.ofNat counts.errors)) ++
    line (if counts.nodes = 0 then "  ⊘ Empty" else "  ✓ Success")

/-- The entry of a file in the summary, if it was converted. -/
def toJson? (id : Text) : Report → Option Json
  | converted counts => some (.obj [
      Json.textField "id" id,
      Json.intField "nodes" counts.nodes,
      Json.intField "edges" counts.edges,
      Json.intField "commands" counts.commands,
      Json.intField "errors" counts.errors])
  | _ => none

end Report

/-- Whether a file name is that of a sketch. -/
def isSketchName (name : Text) : Bool :=
  List.isSuffixOf ".sketch" name || List.isSuffixOf ".txt" name

/-- The names of the sketches in a directory, in order. -/
def sketchNames (tree : FileTree) (dir : Path) : List Text :=
  ((tree.list dir).filter isSketchName).mergeSort fun a b => !Text.before b a

/-- Converts one file of a directory. -/
def batchFile (options : ConvertOptions) (output : Path) (name : Text) : Shell Report := do
  let input := options.input.child name
  let text ← readText input
  if Text.isBlankText text then
    pure .blank
  else
    let target := output.child (input.stem ++ ".json")
    let (diagram, _) ← file options Numbering.empty input (some target)
    pure (.converted (Counts.ofDiagram diagram))

/-- Converts files of a directory one after the other; one that fails does not stop the rest. -/
def batchFiles (options : ConvertOptions) (output : Path) :
    List Text → FileTree → List (Text × Report) × FileTree
  | [], tree => ([], tree)
  | name :: names, tree =>
    let (result, tree) := (batchFile options output name).run.run tree
    let report :=
      match result with
      | .ok report => report
      | .error fault => .failed fault.message
    let (reports, tree) := batchFiles options output names tree
    ((Path.stemOf name, report) :: reports, tree)

/-- The lines about files of which the first has the number `n`. -/
def reportLines : Nat → List (Text × Report) → Text
  | _, [] => []
  | n, (id, report) :: reports =>
    line [] ++ line ("[" ++ Text.ofNat n ++ "] Processing: " ++ id) ++ report.message ++
      reportLines (n + 1) reports

/-- How many files came to what. -/
structure Stats where
  total : Nat
  success : Nat
  failed : Nat
  empty : Nat
  deriving DecidableEq, Repr

/-- The figures of some reports. -/
def Stats.ofReports (reports : List (Text × Report)) : Stats :=
  ⟨reports.length, reports.countP (·.2.isSuccess), reports.countP (·.2.isFailed),
    reports.countP (·.2.isEmpty)⟩

/-- The summary of some reports. -/
def summary (reports : List (Text × Report)) : Json :=
  let stats := Stats.ofReports reports
  .obj [
    ("stats", .obj [
      Json.intField "total" stats.total,
      Json.intField "success" stats.success,
      Json.intField "failed" stats.failed,
      Json.intField "empty" stats.empty]),
    Json.listField "results" (reports.filterMap fun e => e.2.toJson? e.1)]

/-- A line across the page. -/
def rule : Text := line (List.replicate 70 '=')

/-- The lines before the files. -/
def batchHeader (n : Nat) : Text := line ("Found " ++ Text.ofNat n ++ " sketch files") ++ rule

/-- The lines after the files. -/
def batchFooter (stats : Stats) : Text :=
  line [] ++ rule ++ line "SUMMARY" ++ rule ++
    line ("Total: " ++ Text.ofNat stats.total ++ ", Success: " ++ Text.ofNat stats.success ++
      ", Failed: " ++ Text.ofNat stats.failed ++ ", Empty: " ++ Text.ofNat stats.empty)

/-- The name of the summary file. -/
def summaryName : Text := "conversion_summary.json"

/-- Where the documents of a directory go. -/
def batchOutput (options : ConvertOptions) : Path :=
  options.output.getD (options.input.child "output")

/-- Converts all sketches of a directory and writes a summary. -/
def batch (options : ConvertOptions) (tree : FileTree) : Ending :=
  let output := batchOutput options
  match tree.makeDirs output with
  | .error fault => .failed [] fault.message tree
  | .ok tree =>
    match sketchNames tree options.input with
    | [] => .done (line ("No sketch files found in " ++ options.input.toText)) tree
    | names =>
      let (reports, tree) := batchFiles options output names tree
      let printed := batchHeader names.length ++ reportLines 1 reports ++
        batchFooter (Stats.ofReports reports)
      let summaryPath := output.child summaryName
      match tree.write summaryPath (Json.pretty (summary reports)) with
      | .error fault => .failed printed fault.message tree
      | .ok tree =>
        .done (printed ++ line [] ++ line ("Output: " ++ output.toText) ++
          line ("Summary: " ++ summaryPath.toText)) tree

/-! ## The program -/

/-- What the program takes on its command line. -/
def grammar : Grammar where
  program := "convert"
  options := [
    .value ["-o", "--output"],
    .flag ["-b", "--batch"],
    .choice ["--emit"] (Format.all.map Format.name),
    .flag ["--run-commands"],
    .value ["--ids"],
    .flag ["--clear-ids"],
    .flag ["--strict"],
    .flag ["-v", "--verbose"]]
  operands := ["input"]

/-- The options on a command line. -/
def optionsOf (arguments : Arguments) : ConvertOptions where
  input := Path.ofText (arguments.operands.head?.getD [])
  output := (arguments.value? "--output").map Path.ofText
  batch := arguments.has "--batch"
  emit := (arguments.value? "--emit").bind Format.ofName?
  runCommands := arguments.has "--run-commands"
  ids :=
    match arguments.has "--ids", arguments.value? "--ids" with
    | false, _ => .none
    | true, none => .unnamed
    | true, some path => .named (Path.ofText path)
  clearIds := arguments.has "--clear-ids"
  strict := arguments.has "--strict"

/-- Runs the program with options. -/
def runWith (options : ConvertOptions) (tree : FileTree) : Ending :=
  if options.batch then
    match tree.isDir options.input with
    | .error fault => .failed [] fault.message tree
    | .ok false => .failed [] (options.input.toText ++ " is not a directory") tree
    | .ok true => batch options tree
  else
    match tree.isFile options.input with
    | .error fault => .failed [] fault.message tree
    | .ok false => .failed [] (options.input.toText ++ " is not a file") tree
    | .ok true =>
      match (single options).run.run tree with
      | (.ok diagram, tree) => .done (singleReport options diagram) tree
      | (.error fault, tree) => .failed [] fault.message tree

/-- Runs the program with a command line. -/
def run (commandLine : List Text) (tree : FileTree) : Ending :=
  match grammar.read commandLine with
  | .error fault => .ofUsageFault grammar.program fault tree
  | .ok arguments => runWith (optionsOf arguments) tree

end Convert

end GraphSketch
