import GraphSketch.Document.Basic
import GraphSketch.Proofs.Execution.Deeds

/-!
# Running commands on a document

A document that commands are run on keeps the actions in the order in which they come and applies
each of them to itself.

* `Document.HasIds` — the documents on which commands can be run at all: every object among the
  nodes has an `id` that can be one (`checkNodes_eq_ok_iff`).
* `Document.acceptAll_sink` — the sink of documents is two sinks side by side, the journal and the
  document to which each action is applied.
* `Document.execute_eq_ok_iff` — what a run comes to, in terms of the journal of the same
  commands: the same actions, the same answers, and the document that the actions make.  It is a
  fault for a document that takes no warnings if a command fails.

So what is to be known of a run on a document is known from the actions alone, which do not depend
on the document.
-/

set_option autoImplicit false

namespace GraphSketch

namespace Document

/-- The object has an `id`. -/
def HasId (fields : OrderedMap Text Json) : Prop :=
  ∃ value, fields.get? "id" = some value ∧ ∃ id, idOf (some value) = .ok id

/-- Every object among the nodes of the document has an `id`. -/
def HasIds (document : Document) : Prop :=
  ∃ items, document.parts "nodes" = .ok items ∧ ∀ fields, .obj fields ∈ items → HasId fields

theorem checkNode_eq_ok_iff {item : Json} :
    checkNode item = .ok () ↔ ∀ fields, item = .obj fields → HasId fields := by
  cases item with
  | obj fields =>
    unfold checkNode OrderedMap.has
    simp only [Json.obj.injEq, forall_eq']
    unfold HasId
    cases OrderedMap.get? fields "id" with
    | none => simp
    | some value => cases h : idOf (some value) <;> simp [Except.map, h]
  | _ => simp [checkNode]

theorem forM_checkNode_eq_ok_iff {items : List Json} :
    forM items checkNode = .ok () ↔ ∀ item ∈ items, checkNode item = .ok () := by
  induction items with
  | nil => simp [pure, Except.pure]
  | cons item items ih =>
    rw [List.forM_cons, List.forall_mem_cons, ← ih]
    cases checkNode item <;> simp [bind, Except.bind]

theorem checkNodes_eq_ok_iff {document : Document} :
    document.checkNodes = .ok () ↔ document.HasIds := by
  unfold checkNodes HasIds
  cases document.parts "nodes" with
  | error fault => simp [bind, Except.bind]
  | ok items =>
    show forM items checkNode = .ok () ↔ _
    simp only [forM_checkNode_eq_ok_iff, checkNode_eq_ok_iff, Except.ok.injEq, exists_eq_left']
    exact ⟨fun h fields hmem => h _ hmem fields rfl,
      fun h item hmem fields he => h fields (he ▸ hmem)⟩

theorem acceptAll_sink (before : List Action) (document : Document) (actions : List Action) :
    sink.acceptAll (before, document) actions =
      (before ++ actions, actions.foldl apply document) := by
  induction actions generalizing before document with
  | nil => exact congrArg (·, document) (List.append_nil before).symm
  | cons action actions ih =>
    have hrest := ih (before ++ [action]) (document.apply action)
    rw [List.append_assoc] at hrest
    exact hrest

/-- **What a run of commands comes to**: the actions and the answers are those of the journal, and
the document is what the actions make of it one after the other.  A failed command is a fault of a
document that takes no warnings. -/
theorem execute_eq_ok_iff {document after : Document} {nodes : List Node}
    {requests : List Request} {actions : List Action}
    {answers : Except OversizedNumeral (List Bool)} :
    document.execute nodes requests = .ok (actions, after, answers) ↔
      document.HasIds ∧ journal.executeAll nodes [] requests = (actions, answers) ∧
        after = actions.foldl apply document ∧
        (document.takesWarnings = true ∨ ∀ action ∈ actions, action.isError = false) := by
  rw [← checkNodes_eq_ok_iff, execute, Sink.executeAll_eq_journal]
  rcases journal.executeAll nodes [] requests with ⟨performed, given⟩
  rw [acceptAll_sink, List.nil_append]
  cases document.checkNodes with
  | error fault => simp [bind, Except.bind]
  | ok u =>
    show (if _ then _ else _) = _ ↔ _
    split
    · rename_i hfails
      simp only [Bool.and_eq_true, Bool.not_eq_true', List.any_eq_true] at hfails
      obtain ⟨hnot, action, hmem, herror⟩ := hfails
      refine iff_of_false nofun ?_
      rintro ⟨-, heq, -, htakes | hnone⟩
      · rw [htakes] at hnot
        cases hnot
      · cases heq
        rw [hnone action hmem] at herror
        cases herror
    · rename_i hgoes
      simp only [Bool.and_eq_true, Bool.not_eq_true', List.any_eq_true, not_and, not_exists,
        Bool.not_eq_true] at hgoes
      simp only [pure, Except.pure, Except.ok.injEq, Prod.mk.injEq, true_and]
      constructor
      · rintro ⟨rfl, rfl, rfl⟩
        refine ⟨⟨rfl, rfl⟩, rfl, ?_⟩
        cases htakes : document.takesWarnings with
        | true => exact Or.inl rfl
        | false => exact Or.inr (hgoes htakes)
      · rintro ⟨⟨rfl, rfl⟩, rfl, -⟩
        exact ⟨rfl, rfl, rfl⟩

end Document

end GraphSketch
