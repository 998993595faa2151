import GraphSketch.Execution

/-!
# Runs of commands

Commands reach a sink only by the actions it takes in, so that what every action preserves holds
after any commands (`executeAll_induction`), whether the run goes to its end or not.

* `fail_induction`, `onNode_induction` and `execute_induction` — the same for a failure, for what
  is done to a node that is found, and for one command.

The sink is any sink, so this is used for documents that commands are run on as well as for
journals. What is to be shown of an action may say anything about the state of the sink before and
after it.
-/

set_option autoImplicit false

namespace GraphSketch

namespace Sink

variable {σ : Type} {sink : Sink σ} {P : σ → Prop}

theorem fail_induction (haccept : ∀ state action, P state → P (sink.accept state action))
    {state : σ} (h : P state) (fault : CommandFault) : P (sink.fail state fault).1 :=
  haccept _ _ h

theorem onNode_induction (haccept : ∀ state action, P state → P (sink.accept state action))
    {nodes : List Node} {state : σ} (h : P state) {ref : Text} {act : Node → Outcome σ}
    (hact : ∀ node, P (act node).1) : P (sink.onNode nodes state ref act).1 := by
  unfold onNode
  split
  · exact h
  · exact fail_induction haccept h _
  · exact hact _

theorem execute_induction (haccept : ∀ state action, P state → P (sink.accept state action))
    (nodes : List Node) {state : σ} (h : P state) (request : Request) :
    P (sink.execute nodes state request).1 := by
  cases request with
  | select ref params =>
    refine onNode_induction haccept h fun node => ?_
    unfold select
    split
    · exact haccept _ _ h
    · refine haccept _ _ ?_
      split
      · exact haccept _ _ h
      · exact haccept _ _ (haccept _ _ h)
  | rename ref label =>
    refine onNode_induction haccept h fun node => ?_
    unfold rename
    split
    · exact fail_induction haccept h _
    · exact haccept _ _ h
  | layout kind => exact haccept _ _ h

/-- **What every action preserves holds after any commands.** -/
theorem executeAll_induction (haccept : ∀ state action, P state → P (sink.accept state action))
    (nodes : List Node) : ∀ (requests : List Request) {state : σ}, P state →
    P (sink.executeAll nodes state requests).1
  | [], _, h => h
  | request :: requests, state, h => by
    have hstep := execute_induction haccept nodes h request
    rw [executeAll]
    split
    · rename_i heq
      rwa [heq] at hstep
    · rename_i heq
      rw [heq] at hstep
      exact executeAll_induction haccept nodes requests hstep

end Sink

end GraphSketch
