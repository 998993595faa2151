import GraphSketch.Execution

/-!
# What requests do

A request meets a sink by the actions that it performs and in no other way, and it does not look
at the state of the sink.  So its actions and its answer are its own, whichever sink takes them in
and whatever requests have been carried out before.

* `Request.Does` lists everything that a request can do, and it does that to every sink
  (`Request.Does.execute`).
* `Sink.execute_eq` — a sink takes in the actions of a request, and the answer is the request's.
* `Sink.executeAll_eq_ok_iff`, `Sink.executeAll_eq_error_iff` — requests do one after the other what
  each of them does alone, up to the first one that is not answered.
* `Sink.executeAll_eq_journal` — any sink comes to what it makes of the actions in the journal.
-/

set_option autoImplicit false

namespace GraphSketch

/-! ## One request -/

namespace Request

/-- The text by which a request refers to a node. -/
def ref? : Request → Option Text
  | select ref _ | rename ref _ => some ref
  | layout _ => none

/-- Everything that a request can do: the actions that it performs, in order, and its answer. -/
inductive Does (nodes : List Node) : Request → List Action → Except OversizedNumeral Bool → Prop
  /-- The number that refers to a node is too long. -/
  | unread {request : Request} {ref : Text} {fault : OversizedNumeral}
      (href : request.ref? = some ref) (hfind : findNode ref nodes = .error fault) :
      Does nodes request [] (.error fault)
  /-- No node is meant. -/
  | notFound {request : Request} {ref : Text}
      (href : request.ref? = some ref) (hfind : findNode ref nodes = .ok none) :
      Does nodes request [.error (.notFound ref)] (.ok false)
  /-- A node is to be called nothing. -/
  | unnamed {ref : Text} {node : Node} (hfind : findNode ref nodes = .ok (some node)) :
      Does nodes (.rename ref []) [.error .missingLabel] (.ok false)
  | renamed {ref label : Text} {node : Node} (hfind : findNode ref nodes = .ok (some node))
      (hlabel : label ≠ []) :
      Does nodes (.rename ref label) [.rename node.label label] (.ok true)
  /-- The width is too long a number, which shows after the node has been selected. -/
  | unstyled {ref params : Text} {node : Node} {fault : OversizedNumeral}
      (hfind : findNode ref nodes = .ok (some node)) (hread : Style.read params = .error fault) :
      Does nodes (.select ref params) [.select node.label] (.error fault)
  | shown {ref params : Text} {node : Node} (hfind : findNode ref nodes = .ok (some node))
      (hread : Style.read params = .ok Style.empty) :
      Does nodes (.select ref params) [.select node.label, .inspect node.label] (.ok true)
  | styled {ref params : Text} {node : Node} {style : Style}
      (hfind : findNode ref nodes = .ok (some node)) (hread : Style.read params = .ok style)
      (hstyle : style ≠ Style.empty) :
      Does nodes (.select ref params)
        [.select node.label, .style node.label style, .inspect node.label] (.ok true)
  | laidOut {kind : Text} :
      Does nodes (.layout kind) [.layout kind (nodes.map (·.label))] (.ok true)

/-- The actions that a request performs. -/
def actions (nodes : List Node) (request : Request) : List Action :=
  (journal.execute nodes [] request).1

/-- Whether a request is carried out. -/
def answer (nodes : List Node) (request : Request) : Except OversizedNumeral Bool :=
  (journal.execute nodes [] request).2

end Request

namespace Sink

variable {σ : Type}

theorem acceptAll_append (sink : Sink σ) (state : σ) (actions more : List Action) :
    sink.acceptAll state (actions ++ more) = sink.acceptAll (sink.acceptAll state actions) more :=
  List.foldl_append

theorem acceptAll_journal : ∀ before actions : List Action,
    journal.acceptAll before actions = before ++ actions
  | before, [] => (List.append_nil before).symm
  | before, action :: actions => by
    have hrest := acceptAll_journal (before ++ [action]) actions
    rw [List.append_assoc] at hrest
    exact hrest

end Sink

namespace Request

variable {nodes : List Node} {request : Request}

theorem exists_does (nodes : List Node) (request : Request) :
    ∃ actions answer, request.Does nodes actions answer := by
  cases request with
  | layout kind => exact ⟨_, _, .laidOut⟩
  | rename ref label =>
    cases hfind : findNode ref nodes with
    | error fault => exact ⟨_, _, .unread rfl hfind⟩
    | ok found =>
      cases found with
      | none => exact ⟨_, _, .notFound rfl hfind⟩
      | some node =>
        rcases Decidable.em (label = []) with rfl | hlabel
        · exact ⟨_, _, .unnamed hfind⟩
        · exact ⟨_, _, .renamed hfind hlabel⟩
  | select ref params =>
    cases hfind : findNode ref nodes with
    | error fault => exact ⟨_, _, .unread rfl hfind⟩
    | ok found =>
      cases found with
      | none => exact ⟨_, _, .notFound rfl hfind⟩
      | some node =>
        cases hread : Style.read params with
        | error fault => exact ⟨_, _, .unstyled hfind hread⟩
        | ok style =>
          rcases Decidable.em (style = Style.empty) with rfl | hstyle
          · exact ⟨_, _, .shown hfind hread⟩
          · exact ⟨_, _, .styled hfind hread hstyle⟩

/-- To act on a node that a request refers to is to look it up first. -/
theorem execute_of_findNode {σ : Type} {sink : Sink σ} {state : σ} {ref : Text}
    (href : request.ref? = some ref) :
    ∃ act : Node → Outcome σ,
      sink.execute nodes state request = sink.onNode nodes state ref act := by
  cases request with
  | layout kind => cases href
  | rename _ label =>
    cases href
    exact ⟨_, rfl⟩
  | select _ params =>
    cases href
    exact ⟨_, rfl⟩

/-- **What a request does it does to every sink**, in whatever state that is. -/
theorem Does.execute {σ : Type} {actions : List Action} {answer : Except OversizedNumeral Bool}
    (h : request.Does nodes actions answer) (sink : Sink σ) (state : σ) :
    sink.execute nodes state request = (sink.acceptAll state actions, answer) := by
  cases h with
  | unread href hfind =>
    obtain ⟨act, hact⟩ := execute_of_findNode href
    rw [hact, Sink.onNode, hfind]
    rfl
  | notFound href hfind =>
    obtain ⟨act, hact⟩ := execute_of_findNode href
    rw [hact, Sink.onNode, hfind]
    rfl
  | unnamed hfind =>
    rw [Sink.execute, Sink.onNode, hfind]
    rfl
  | renamed hfind hlabel =>
    rw [Sink.execute, Sink.onNode, hfind]
    exact if_neg (by simpa using hlabel)
  | unstyled hfind hread =>
    rw [Sink.execute, Sink.onNode, hfind]
    simp only [Sink.select, hread]
    rfl
  | shown hfind hread =>
    rw [Sink.execute, Sink.onNode, hfind]
    simp only [Sink.select, hread, if_true]
    rfl
  | styled hfind hread hstyle =>
    rw [Sink.execute, Sink.onNode, hfind]
    simp only [Sink.select, hread, if_neg hstyle]
    rfl
  | laidOut => rfl

theorem Does.unique {actions : List Action} {answer : Except OversizedNumeral Bool}
    (h : request.Does nodes actions answer) :
    request.actions nodes = actions ∧ request.answer nodes = answer := by
  rw [Request.actions, Request.answer, h.execute, Sink.acceptAll_journal]
  exact ⟨rfl, rfl⟩

theorem does (nodes : List Node) (request : Request) :
    request.Does nodes (request.actions nodes) (request.answer nodes) := by
  obtain ⟨actions, answer, h⟩ := exists_does nodes request
  obtain ⟨hactions, hanswer⟩ := h.unique
  rwa [hactions, hanswer]

end Request

/-- **A request does to every sink what it does to the journal.** -/
theorem Sink.execute_eq {σ : Type} (sink : Sink σ) (nodes : List Node) (state : σ)
    (request : Request) :
    sink.execute nodes state request =
      (sink.acceptAll state (request.actions nodes), request.answer nodes) :=
  (Request.does nodes request).execute sink state

/-! ## Several requests -/

namespace Sink

variable {σ : Type}

/-- One step of a run: the first request is not answered and ends it, or the rest goes on with its
actions taken in. -/
theorem executeAll_cons (sink : Sink σ) (nodes : List Node) (state : σ) (request : Request)
    (requests : List Request) :
    sink.executeAll nodes state (request :: requests) =
      match request.answer nodes with
      | .error fault => (sink.acceptAll state (request.actions nodes), .error fault)
      | .ok done =>
        let rest := sink.executeAll nodes (sink.acceptAll state (request.actions nodes)) requests
        (rest.1, rest.2.map (done :: ·)) := by
  rw [executeAll, execute_eq]
  cases request.answer nodes <;> rfl

/-- **A run that goes to its end** has carried out all requests, each as if it were the only one. -/
theorem executeAll_eq_ok_iff (sink : Sink σ) (nodes : List Node) : ∀ {requests : List Request}
    {state after : σ} {results : List Bool},
    sink.executeAll nodes state requests = (after, .ok results) ↔
      requests.map (·.answer nodes) = results.map .ok ∧
        after = sink.acceptAll state (requests.flatMap (·.actions nodes))
  | [], state, after, results => by
    cases results <;> simp [executeAll, acceptAll, eq_comm]
  | request :: requests, state, after, results => by
    have ih := @executeAll_eq_ok_iff sink nodes requests
    rw [executeAll_cons, List.map_cons, List.flatMap_cons, acceptAll_append]
    cases request.answer nodes with
    | error fault => cases results <;> simp
    | ok done =>
      generalize sink.acceptAll state (request.actions nodes) = next
      constructor
      · intro h
        rcases hrest : sink.executeAll nodes next requests with ⟨last, fault | rest⟩
        · rw [hrest] at h
          cases h
        · rw [hrest] at h
          cases h
          obtain ⟨hanswers, hlast⟩ := ih.mp hrest
          exact ⟨by rw [hanswers, List.map_cons], hlast⟩
      · rintro ⟨hanswers, rfl⟩
        cases results with
        | nil => cases hanswers
        | cons result results =>
          obtain ⟨hfirst, hrest⟩ := List.cons.inj hanswers
          cases hfirst
          rw [ih.mpr ⟨hrest, rfl⟩]
          rfl

/-- **A run that does not** has ended at the first request that is not answered, with the actions
of that request taken in. -/
theorem executeAll_eq_error_iff (sink : Sink σ) (nodes : List Node) : ∀ {requests : List Request}
    {state after : σ} {fault : OversizedNumeral},
    sink.executeAll nodes state requests = (after, .error fault) ↔
      ∃ (pre : List Request) (request : Request) (post : List Request) (results : List Bool),
        requests = pre ++ request :: post ∧ pre.map (·.answer nodes) = results.map .ok ∧
          request.answer nodes = .error fault ∧
          after = sink.acceptAll state ((pre ++ [request]).flatMap (·.actions nodes))
  | [], state, after, fault => by
    simp [executeAll]
  | first :: requests, state, after, fault => by
    have ih := @executeAll_eq_error_iff sink nodes requests
      (sink.acceptAll state (first.actions nodes)) after fault
    rw [executeAll_cons]
    constructor
    · intro h
      cases hanswer : first.answer nodes with
      | error found =>
        rw [hanswer] at h
        cases h
        exact ⟨[], first, requests, [], rfl, rfl, hanswer, by simp⟩
      | ok done =>
        rcases hrest : sink.executeAll nodes (sink.acceptAll state (first.actions nodes)) requests
          with ⟨last, found | rest⟩
        · rw [hanswer] at h
          simp only [hrest] at h
          cases h
          obtain ⟨pre, request, post, results, rfl, hpre, hrequest, hlast⟩ := ih.mp hrest
          refine ⟨first :: pre, request, post, done :: results, rfl, ?_, hrequest, ?_⟩
          · rw [List.map_cons, List.map_cons, hanswer, hpre]
          · rw [List.cons_append, List.flatMap_cons, acceptAll_append]
            exact hlast
        · rw [hanswer] at h
          simp only [hrest] at h
          cases h
    · rintro ⟨pre, request, post, results, hsplit, hpre, hrequest, rfl⟩
      cases pre with
      | nil =>
        obtain ⟨rfl, rfl⟩ := List.cons.inj hsplit
        rw [hrequest]
        simp
      | cons x pre =>
        obtain ⟨rfl, rfl⟩ := List.cons.inj hsplit
        cases results with
        | nil => cases hpre
        | cons done results =>
          obtain ⟨hfirst, hrest⟩ := List.cons.inj hpre
          have hrun := ih.mpr ⟨pre, request, post, results, rfl, hrest, hrequest, by
            rw [List.cons_append, List.flatMap_cons, acceptAll_append]⟩
          have hanswer : first.answer nodes = .ok done := hfirst
          rw [hanswer]
          exact congrArg (fun run => (run.1, run.2.map (done :: ·))) hrun

/-- **Any sink keeps in step with the journal**: it takes in what the journal holds, and the
answers are the same. -/
theorem executeAll_eq_journal (sink : Sink σ) (nodes : List Node) (state : σ)
    (requests : List Request) :
    sink.executeAll nodes state requests =
      (sink.acceptAll state (journal.executeAll nodes [] requests).1,
        (journal.executeAll nodes [] requests).2) := by
  rcases h : journal.executeAll nodes [] requests with ⟨actions, fault | results⟩
  · obtain ⟨pre, request, post, results, hsplit, hpre, hrequest, rfl⟩ :=
      (executeAll_eq_error_iff journal nodes).mp h
    rw [acceptAll_journal, List.nil_append]
    exact (executeAll_eq_error_iff sink nodes).mpr
      ⟨pre, request, post, results, hsplit, hpre, hrequest, rfl⟩
  · obtain ⟨hanswers, rfl⟩ := (executeAll_eq_ok_iff journal nodes).mp h
    rw [acceptAll_journal, List.nil_append]
    exact (executeAll_eq_ok_iff sink nodes).mpr ⟨hanswers, rfl⟩

end Sink

end GraphSketch
