import GraphSketch.Graph.Basic
import GraphSketch.Command
import GraphSketch.Style

/-!
# Executing commands

A command acts on the nodes of a diagram by what it tells a sink: a node is selected, styled,
renamed, the layout is chosen, or the command fails. A sink is any state with a way to take in
actions; what it does with them is its own affair. This is the Command Interpreter of the
specification (section D.7).

* `Sink` stands for the hooks of `CommandSink`: each call of a hook is one `Action` given to it,
  and `journal` is the sink that keeps the actions, in order (`RecordingCommandSink`).
* `findNode` (`find_node`) finds the node that a command refers to: by number where the reference
  is well-formed, else the first one whose label is the same in lower case.
* `execute` carries one command out and answers whether it was carried out; a command that names
  no node or an empty label tells the sink of its failure.
* `executeAll` (`execute_all`) does so with one command after another.

A number with more digits than `Numeral.limit`, in a reference or in a width, is no failure of
that kind: it ends the run, and the sink keeps what it was told so far. The hooks themselves are
taken to return.
-/

set_option autoImplicit false

namespace GraphSketch

/-- Why a command cannot be carried out. -/
inductive CommandFault where
  /-- No node is called this. -/
  | notFound (ref : Text)
  /-- A node is to be renamed, but to nothing. -/
  | missingLabel
  deriving DecidableEq, Repr

/-- The fault in words. -/
def CommandFault.message : CommandFault → Text
  | notFound ref => "Node '" ++ ref ++ "' not found"
  | missingLabel => "New label is required for rename command"

/-- What a command does. -/
inductive Action where
  | select (label : Text)
  | inspect (label : Text)
  | style (label : Text) (style : Style)
  | rename (label newLabel : Text)
  | layout (kind : Text) (labels : List Text)
  | error (fault : CommandFault)
  deriving DecidableEq, Repr

/-- Whether the action is that a command failed. -/
def Action.isError : Action → Bool
  | error _ => true
  | _ => false

/-- A receiver of actions with a state of type `σ`. -/
structure Sink (σ : Type) where
  accept : σ → Action → σ

/-- The sink that keeps every action. -/
def journal : Sink (List Action) := ⟨fun actions action => actions ++ [action]⟩

/-- The node that a text refers to: by its number if the text is a well-formed reference, else
the first whose label differs at most in the case of its letters. -/
def findNode (ref : Text) (nodes : List Node) : Except OversizedNumeral (Option Node) :=
  (Reference.number (Text.trim ref)).map fun
    | some n => nodes.find? (·.number = n)
    | none => nodes.find? fun node => Text.lower node.label = Text.lower (Text.trim ref)

variable {σ : Type}

/-- The state of a sink after a command, and whether the command was carried out. A number with
too many digits ends the run. -/
abbrev Outcome (σ : Type) := σ × Except OversizedNumeral Bool

namespace Sink

/-- Takes in actions in order. -/
def acceptAll (sink : Sink σ) (state : σ) (actions : List Action) : σ :=
  actions.foldl sink.accept state

/-- A command that fails. -/
def fail (sink : Sink σ) (state : σ) (fault : CommandFault) : Outcome σ :=
  (sink.accept state (.error fault), .ok false)

/-- Selects a node, sets its style if any is given, and shows it. -/
def select (sink : Sink σ) (state : σ) (node : Node) (params : Text) : Outcome σ :=
  let selected := sink.accept state (.select node.label)
  match Style.read params with
  | .error fault => (selected, .error fault)
  | .ok style =>
    let styled :=
      if style = Style.empty then selected else sink.accept selected (.style node.label style)
    (sink.accept styled (.inspect node.label), .ok true)

/-- Gives a node a new label. -/
def rename (sink : Sink σ) (state : σ) (node : Node) (newLabel : Text) : Outcome σ :=
  if newLabel.isEmpty then sink.fail state .missingLabel
  else (sink.accept state (.rename node.label newLabel), .ok true)

/-- Acts on the node that a text refers to. -/
def onNode (sink : Sink σ) (nodes : List Node) (state : σ) (ref : Text)
    (act : Node → Outcome σ) : Outcome σ :=
  match findNode ref nodes with
  | .error fault => (state, .error fault)
  | .ok none => sink.fail state (.notFound ref)
  | .ok (some node) => act node

/-- Carries out what a command asks for. -/
def execute (sink : Sink σ) (nodes : List Node) (state : σ) : Request → Outcome σ
  | .select ref params => sink.onNode nodes state ref fun node => sink.select state node params
  | .rename ref label => sink.onNode nodes state ref fun node => sink.rename state node label
  | .layout kind => (sink.accept state (.layout kind (nodes.map (·.label))), .ok true)

/-- Carries out commands in order and tells of each whether it was carried out. -/
def executeAll (sink : Sink σ) (nodes : List Node) :
    σ → List Request → σ × Except OversizedNumeral (List Bool)
  | state, [] => (state, .ok [])
  | state, request :: requests =>
    match sink.execute nodes state request with
    | (state, .error fault) => (state, .error fault)
    | (state, .ok done) =>
      let (state, results) := executeAll sink nodes state requests
      (state, results.map (done :: ·))

end Sink

end GraphSketch
