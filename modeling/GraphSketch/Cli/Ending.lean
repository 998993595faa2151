import GraphSketch.Cli.Arguments
import GraphSketch.Files.Tree

/-!
# How programs end

A run of a program is a function from a command line and a file tree to its ending. Everything
that can be seen of a run is a part of it, so that statements about runs are statements about
endings.

* `Ending` is what a run leaves behind: an exit code, what it prints, and the files.
* `Ending.done` and `Ending.failed` are the two endings of a run: with the exit code 0, and with 1
  and the message on standard error. A run that fails may have printed and written before; the
  files are those that are there then.
* `Ending.ofUsageFault` is the ending of a command line that is not run: the exit code 2 and what
  is wrong with it, or 0 and a line on the usage where help was asked for. The files stay as they
  are.

How long a run takes, and in which order what it prints and what it writes come to be seen, is
left out. So are the help text itself and the usage text before a message.
-/

set_option autoImplicit false

namespace GraphSketch

/-- What a run of a program leaves behind. -/
structure Ending where
  exit : Nat
  out : Text
  err : Text
  tree : FileTree

namespace Ending

/-- A run that ends well. -/
def done (out : Text) (tree : FileTree) : Ending := ⟨0, out, [], tree⟩

/-- A run that fails, with what it has printed before. -/
def failed (out message : Text) (tree : FileTree) : Ending :=
  ⟨1, out, "Error: " ++ message ++ "\n", tree⟩

/-- The ending of a command line that is not run. -/
def ofUsageFault (program : Text) (fault : UsageFault) (tree : FileTree) : Ending :=
  match fault with
  | .help => ⟨0, "usage: " ++ program ++ " [options]\n", [], tree⟩
  | fault => ⟨2, [], program ++ ": error: " ++ fault.message ++ "\n", tree⟩

end Ending

end GraphSketch
