import GraphSketch.Cli.Convert
import GraphSketch.Cli.Render

/-!
# The command line

The first argument names the program, `convert` or `ir2code`; the others are its command line.
What is at the paths that the command line names is read into a file tree, the program runs on the
tree, and what it has changed is written. Paths lead on from the working directory.

Standard input holds the document for `ir2code --in -`. For `convert --batch` it holds the names
in the directory, one a line.

* `FileTree.look` takes what is at a path into a tree, with the directories that lead there.
* `FileTree.save` writes what has changed, directories first.
* `finish` prints what a run has to say and gives its exit code back.
* `main` runs a program.

This is the only module that does anything: all others are functions of texts and trees, and what
is proved is proved about them. A tree is small here: it holds what one command line can touch. A
file that is no text counts as missing, and a directory is known only as far as paths lead through
it.
-/

set_option autoImplicit false

namespace GraphSketch

namespace FileTree

/-- Takes what is at a path into a tree. -/
def lookAt (tree : FileTree) (path : Path) : IO FileTree := do
  match ← (IO.FS.readFile (String.ofList path.toText)).toBaseIO with
  | .ok s => pure { tree with files := tree.files.put path.names s.toList }
  | .error (.inappropriateType _ 21 _) => pure { tree with dirs := tree.dirs ++ [path.names] }
  | .error _ => pure tree

/-- Takes what is at a path and on the way to it into a tree. -/
def look (tree : FileTree) (path : Path) : IO FileTree :=
  (List.range' 1 path.names.length).foldlM
    (fun tree n => tree.lookAt { path with names := path.names.take n }) tree

/-- Writes what has changed between two trees. -/
def save (before after : FileTree) : IO Unit := do
  for location in after.dirs do
    if !before.isDirAt location then
      IO.FS.createDirAll (String.ofList (Text.join "/" location))
  for (location, t) in after.files do
    if before.fileAt? location ≠ some t then
      IO.FS.writeFile (String.ofList (Text.join "/" location)) (String.ofList t)

end FileTree

namespace CommandLine

/-- The rest of a stream. -/
partial def readRest (input : IO.FS.Stream) : IO Text := do
  let s ← input.getLine
  if s.isEmpty then pure [] else return s.toList ++ (← readRest input)

/-- Prints what a program has to say, and saves its files. -/
def finish (before : FileTree) (ending : Ending) : IO UInt32 := do
  before.save ending.tree
  IO.print (String.ofList ending.out)
  IO.eprint (String.ofList ending.err)
  pure (UInt32.ofNat ending.exit)

/-- The paths that a conversion looks at. -/
def convertPaths (options : ConvertOptions) (names : List Text) : List Path :=
  [options.input] ++ options.output.toList ++ options.ids.path?.toList ++
    names.map options.input.child

/-- Runs the conversion. -/
def convert (line : List Text) : IO UInt32 := do
  let before ←
    match Convert.grammar.read line with
    | .error _ => pure FileTree.empty
    | .ok arguments =>
      let options := Convert.optionsOf arguments
      let names ← if options.batch then Text.lines <$> readRest (← IO.getStdin) else pure []
      (convertPaths options (names.filter (· ≠ []))).foldlM FileTree.look FileTree.empty
  finish before (Convert.run line before)

/-- The paths that a rendering looks at. -/
def renderPaths (options : RenderOptions) : List Path :=
  (options.input.toList ++ options.output.toList).map Path.ofText

/-- Runs the rendering. -/
def render (line : List Text) : IO UInt32 := do
  let (before, stdin) ←
    match Render.grammar.read line with
    | .error _ => pure (FileTree.empty, [])
    | .ok arguments =>
      let options := Render.optionsOf arguments
      let stdin ← if options.input = some ['-'] then readRest (← IO.getStdin) else pure []
      pure (← (renderPaths options).foldlM FileTree.look FileTree.empty, stdin)
  match Render.run line stdin before with
  | .ok ending => finish before ending
  | .error fault =>
    IO.eprintln (String.ofList fault.message)
    pure 1

end CommandLine

end GraphSketch

/-- Runs the program that the first argument names. -/
def main (arguments : List String) : IO UInt32 := do
  match arguments with
  | "convert" :: line => GraphSketch.CommandLine.convert (line.map String.toList)
  | "ir2code" :: line => GraphSketch.CommandLine.render (line.map String.toList)
  | _ =>
    IO.eprintln "usage: convert ARGUMENTS | ir2code ARGUMENTS"
    pure 2
