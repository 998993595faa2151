import GraphSketch.Document.Basic
import GraphSketch.Proofs.Execution
import GraphSketch.Proofs.OrderedMap
import Mathlib.Data.List.Forall2

/-!
# What commands change in a document

The actions of commands give nodes other labels and styles, choose a layout and add warnings.
`Document.Changed` says that nothing else in a document has changed: its nodes are the same ones
in the same order, and the warnings that were there come first.  It is a preorder, so that it is
enough to see it of one action (`changed_apply`); it holds after any commands
(`changed_executeAll`).

* `Json.SameBut` — two items that differ in some fields only.
* `forall₂_changeLast` — to change the last node with a label changes an item or none, so a
  relation that holds of each item and itself, and of an item and the changed one, holds item by
  item.
* `changed_setNode`, `changed_put`, `changed_addWarning` — the three ways in which actions change
  a document, one lemma each.

Names of fields are compared as texts throughout: `styleNames` and `changedNames` list the ones
that may change.
-/

set_option autoImplicit false

namespace GraphSketch

/-! ## Fields of items -/

/-- Two items that may differ in some fields only. -/
def Json.SameBut (names : List Text) (v w : Json) : Prop :=
  ∀ key ∉ names, w.field? key = v.field? key

theorem Json.forall₂_sameBut_trans {names : List Text} : ∀ {items middle last : List Json},
    List.Forall₂ (SameBut names) items middle → List.Forall₂ (SameBut names) middle last →
      List.Forall₂ (SameBut names) items last
  | [], _, _, .nil, .nil => .nil
  | _ :: _, _, _, .cons h₁ hs₁, .cons h₂ hs₂ =>
    .cons (fun key hkey => (h₂ key hkey).trans (h₁ key hkey)) (forall₂_sameBut_trans hs₁ hs₂)

namespace Document

/-- The fields of a node that commands set. -/
def styleNames : List Text := ["label", "fill", "stroke", "strokeWidth"]

/-- The fields of a document in which the effects of commands are. -/
def changedNames : List Text := ["nodes", "warnings", "layout", "actions"]

theorem sameBut_setFields {names : List Text} {fields : List (Text × Json)}
    (h : ∀ e ∈ fields, e.1 ∈ names) (item : Json) :
    Json.SameBut names item (setFields fields item) := by
  intro key hkey
  cases item with
  | obj old =>
    have hnot : key ∉ OrderedMap.keys fields := by
      intro hmem
      obtain ⟨e, he, rfl⟩ := List.mem_map.mp hmem
      exact hkey (h e he)
    show OrderedMap.get? (OrderedMap.putAll old fields) key = OrderedMap.get? old key
    rw [OrderedMap.get?_putAll, OrderedMap.last?_eq_none_iff.mpr hnot, Option.none_or]
  | _ => rfl

theorem forall₂_changeLast {R : Json → Json → Prop} (hrefl : ∀ item, R item item) {id : Text}
    {change : Json → Json} (hchange : ∀ item, R item (change item)) :
    ∀ items : List Json, List.Forall₂ R items (changeLast id change items)
  | [] => .nil
  | item :: items => by
    have hsame : List.Forall₂ R items items := List.forall₂_same.mpr fun x _ => hrefl x
    rw [changeLast]
    split
    · exact .cons (hrefl item) (forall₂_changeLast hrefl hchange items)
    · split
      · exact .cons (hchange item) hsame
      · exact .cons (hrefl item) hsame

theorem mem_changeLast {id : Text} {change : Json → Json} {x : Json} : ∀ {items : List Json},
    x ∈ changeLast id change items → x ∈ items ∨ ∃ item ∈ items, x = change item
  | item :: items, h => by
    rw [changeLast] at h
    split at h
    · rcases List.mem_cons.mp h with rfl | h
      · exact Or.inl List.mem_cons_self
      · exact (mem_changeLast h).imp (List.mem_cons_of_mem _)
          fun ⟨y, hy, hx⟩ => ⟨y, List.mem_cons_of_mem _ hy, hx⟩
    · split at h
      · rcases List.mem_cons.mp h with rfl | h
        · exact Or.inr ⟨item, List.mem_cons_self, rfl⟩
        · exact Or.inl (List.mem_cons_of_mem _ h)
      · exact Or.inl h

/-! ## Documents -/

/-- The warnings of a document, if they are a list or missing. -/
def warningList? (document : Document) : Option (List Json) :=
  match document.get? "warnings" with
  | none => some []
  | some (.arr warnings) => some warnings
  | some _ => none

theorem get?_addWarning_of_ne {document : Document} {key : Text} (hkey : "warnings".toList ≠ key)
    (message : Text) : (document.addWarning message).get? key = document.get? key := by
  unfold addWarning
  split
  · exact OrderedMap.get?_put_of_ne _ _ hkey
  · exact OrderedMap.get?_put_of_ne _ _ hkey
  · rfl

/-- A document that differs from an earlier one by what commands do at most. -/
structure Changed (before after : Document) : Prop where
  kept : ∀ key ∉ changedNames, after.get? key = before.get? key
  nodes : ∀ items, before.get? "nodes" = some (.arr items) →
    ∃ changed, after.get? "nodes" = some (.arr changed) ∧
      List.Forall₂ (Json.SameBut styleNames) items changed
  warnings : ∀ earlier, before.warningList? = some earlier →
    ∃ later, after.warningList? = some (earlier ++ later)

namespace Changed

theorem refl (document : Document) : Changed document document where
  kept _ _ := rfl
  nodes items h := ⟨items, h, List.forall₂_same.mpr fun _ _ _ _ => rfl⟩
  warnings earlier h := ⟨[], by rw [h, List.append_nil]⟩

theorem trans {a b c : Document} (h₁ : Changed a b) (h₂ : Changed b c) : Changed a c where
  kept key hkey := (h₂.kept key hkey).trans (h₁.kept key hkey)
  nodes items h := by
    obtain ⟨middle, hmiddle, hall⟩ := h₁.nodes items h
    obtain ⟨last, hlast, hall'⟩ := h₂.nodes middle hmiddle
    exact ⟨last, hlast, Json.forall₂_sameBut_trans hall hall'⟩
  warnings earlier h := by
    obtain ⟨more, hmore⟩ := h₁.warnings earlier h
    obtain ⟨last, hlast⟩ := h₂.warnings _ hmore
    exact ⟨more ++ last, by rw [hlast, List.append_assoc]⟩

end Changed

/-! ## Actions -/

variable (document : Document)

theorem changed_setNode (id : Text) {fields : List (Text × Json)}
    (hfields : ∀ e ∈ fields, e.1 ∈ styleNames) : Changed document (document.setNode id fields) := by
  unfold setNode
  split
  · rename_i nodes hnodes
    have hother : ∀ key, "nodes".toList ≠ key → ∀ v : Json,
        OrderedMap.get? (OrderedMap.put document "nodes" v) key = document.get? key :=
      fun key hkey v => OrderedMap.get?_put_of_ne _ _ hkey
    refine ⟨fun key hkey => hother key (fun he => hkey (he ▸ by decide)) _, fun items h => ?_,
      fun earlier h => ⟨[], ?_⟩⟩
    · rw [hnodes, Option.some.injEq, Json.arr.injEq] at h
      subst h
      exact ⟨_, OrderedMap.get?_put_self _ _ _,
        forall₂_changeLast (fun _ _ _ => rfl) (sameBut_setFields hfields) nodes⟩
    · rw [List.append_nil, warningList?, hother _ (by decide)]
      exact h
  · exact Changed.refl document

theorem changed_put {key : Text} (hkey : key = "layout".toList ∨ key = "actions".toList)
    (v : Json) : Changed document (OrderedMap.put document key v) := by
  have hother : ∀ other, key ≠ other →
      OrderedMap.get? (OrderedMap.put document key v) other = document.get? other :=
    fun other hne => OrderedMap.get?_put_of_ne _ _ hne
  refine ⟨fun other h => hother other ?_, fun items h => ?_, fun earlier h => ⟨[], ?_⟩⟩
  · rintro rfl
    rcases hkey with rfl | rfl <;> exact h (by decide)
  · rw [hother _ (by rcases hkey with rfl | rfl <;> decide)]
    exact ⟨items, h, List.forall₂_same.mpr fun _ _ _ _ => rfl⟩
  · rw [List.append_nil, warningList?, hother _ (by rcases hkey with rfl | rfl <;> decide)]
    exact h

theorem changed_addWarning (message : Text) : Changed document (document.addWarning message) := by
  have hput : ∀ warnings, document.warningList? = some warnings →
      Changed document
        (OrderedMap.put document "warnings" (.arr (warnings ++ [.str message]))) := by
    intro warnings hwarnings
    have hother : ∀ key, "warnings".toList ≠ key → ∀ v : Json,
        OrderedMap.get? (OrderedMap.put document "warnings" v) key = document.get? key :=
      fun key hkey v => OrderedMap.get?_put_of_ne _ _ hkey
    refine ⟨fun key hkey => hother key (fun he => hkey (he ▸ by decide)) _, fun items h => ?_,
      fun earlier h => ⟨[.str message], ?_⟩⟩
    · rw [hother _ (by decide)]
      exact ⟨items, h, List.forall₂_same.mpr fun _ _ _ _ => rfl⟩
    · rw [hwarnings, Option.some.injEq] at h
      subst h
      rw [warningList?, OrderedMap.get?_put_self]
  unfold addWarning
  split
  · rename_i h
    exact hput [] (by rw [warningList?, h])
  · rename_i warnings h
    exact hput warnings (by rw [warningList?, h])
  · exact Changed.refl document

theorem mem_styleNames_of_mem_fields {style : Style} : ∀ e ∈ style.fields, e.1 ∈ styleNames := by
  intro e he
  simp only [Style.fields, List.mem_append, Option.mem_toList, Option.map_eq_some_iff] at he
  rcases he with (⟨_, _, rfl⟩ | ⟨_, _, rfl⟩) | ⟨_, _, rfl⟩
  · exact (by decide : "fill".toList ∈ styleNames)
  · exact (by decide : "stroke".toList ∈ styleNames)
  · exact (by decide : "strokeWidth".toList ∈ styleNames)

/-- **An action changes nothing else.** -/
theorem changed_apply (action : Action) : Changed document (document.apply action) := by
  cases action with
  | select _ => exact Changed.refl document
  | inspect _ => exact Changed.refl document
  | style label settings => exact changed_setNode document label mem_styleNames_of_mem_fields
  | rename label newLabel =>
    refine changed_setNode document label fun e he => ?_
    rw [List.mem_singleton.mp he]
    exact (by decide : "label".toList ∈ styleNames)
  | layout kind _ => exact changed_put document (Or.inl rfl) _
  | error fault => exact changed_addWarning document _

/-- **Commands change nothing else.** -/
theorem changed_executeAll (nodes : List Node) (requests : List Request) :
    Changed document (sink.executeAll nodes ([], document) requests).1.2 :=
  Sink.executeAll_induction (P := fun state : List Action × Document => Changed document state.2)
    (fun _ action h => h.trans (changed_apply _ action)) nodes requests (Changed.refl document)

end Document

end GraphSketch
