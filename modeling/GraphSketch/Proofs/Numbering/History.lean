import GraphSketch.Proofs.Sketch.Drawing

/-!
# Histories of a numbering

A numbering may be shared by any number of sessions.  `Numbering.Event` lists what can happen to
it, `Numbering.run` lets events happen in order, and `Numbering.Reached` holds of the numberings
that some history leads to, from a new numbering or a loaded one.

* `run_sound`, `Reached.sound` — at every moment the tables belong together and the counter lies
  above all numbers.
* `run_grows` — as long as nothing is cleared the numbering grows.
* `run_keeps_numbers` — a label keeps its number, a reference its label, and a new number lies
  above every number that was there.  The number that `assign` gives back and the numbers of
  compiled nodes are those of the numbering.
-/

set_option autoImplicit false

namespace GraphSketch

open OrderedMap

namespace Numbering

/-- What can happen to a numbering. -/
inductive Event where
  /-- A label is given a number, if it has none. -/
  | assign (label : Text)
  /-- A reference is followed. -/
  | resolve (t : Text)
  /-- Some session compiles a text, with success or without. -/
  | compile (settings : Settings) (t : Text)
  /-- The numbering is saved and loaded again. -/
  | reload
  /-- Everything is forgotten. -/
  | clear

/-- The numbering after an event. -/
def Event.apply (m : Numbering) : Event → Numbering
  | assign label => (m.assign label).1
  | resolve _ => m
  | compile settings t => (Sketch.compile settings m t).2
  | reload => m.reload
  | clear => empty

/-- The numbering after several events. -/
def run (m : Numbering) (events : List Event) : Numbering := events.foldl Event.apply m

/-- A numbering that some history leads to. -/
def Reached (m : Numbering) : Prop :=
  ∃ saved start events, IsMapping saved ∧ ofJson saved = .ok start ∧ m = run start events

/-- Whether a number stands in one of the tables. -/
def Holds (m : Numbering) (n : Int) : Prop :=
  (∃ label, m.number? label = some n) ∨ n ∈ keys m.labelOf

/-! ## One event -/

theorem apply_sound {m : Numbering} (hm : m.Sound) (event : Event) : (event.apply m).Sound := by
  cases event with
  | assign label => exact assign_sound hm label
  | resolve t => exact hm
  | compile settings t => exact Sketch.compile_sound hm settings t
  | reload => exact reload_sound hm
  | clear => exact empty_sound

theorem apply_grows {m : Numbering} (hm : m.Sound) {event : Event} (hc : event ≠ .clear) :
    m.Grows (event.apply m) := by
  cases event with
  | assign label => exact assign_grows hm label
  | resolve t => exact Grows.refl m
  | compile settings t => exact Sketch.compile_grows hm settings t
  | reload => exact reload_grows hm
  | clear => exact absurd rfl hc

/-! ## Histories -/

theorem run_append (m : Numbering) (events more : List Event) :
    run m (events ++ more) = run (run m events) more :=
  List.foldl_append

theorem run_assign (m : Numbering) (labels : List Text) :
    run m (labels.map .assign) = m.assignAll labels := by
  rw [run, List.foldl_map]
  rfl

theorem run_sound : ∀ (events : List Event) {m : Numbering}, m.Sound → (run m events).Sound
  | [], _, hm => hm
  | event :: events, _, hm => run_sound events (apply_sound hm event)

theorem run_grows : ∀ (events : List Event) {m : Numbering}, m.Sound → .clear ∉ events →
    m.Grows (run m events)
  | [], m, _, _ => Grows.refl m
  | event :: events, m, hm, hc => by
    rw [List.mem_cons, not_or] at hc
    exact (apply_grows hm (Ne.symm hc.1)).trans (run_grows events (apply_sound hm event) hc.2)

theorem Reached.sound {m : Numbering} (h : m.Reached) : m.Sound := by
  obtain ⟨saved, start, events, hs, hl, rfl⟩ := h
  exact run_sound events (ofJson_sound hs hl)

theorem empty_reached : Reached empty :=
  ⟨.null, empty, [], fun labels h => by cases h; exact List.nodup_nil, rfl, rfl⟩

theorem Sound.lt_of_holds {m : Numbering} (hm : m.Sound) {n : Int} (h : m.Holds n) :
    n < m.next := by
  rcases h with ⟨label, h⟩ | h
  · exact hm.lt_next _ (hm.number?_eq_some_iff.mp h)
  · exact hm.lt_of_labelOf h

theorem Grows.resolve {m m' : Numbering} (h : m.Grows m') {t label : Text}
    (hr : m.resolve t = .ok label) : m'.resolve t = .ok label := by
  unfold Numbering.resolve at hr ⊢
  split
  · rename_i href
    rw [if_pos href] at hr
    cases hn : Reference.number t with
    | error fault => rw [hn] at hr; cases hr
    | ok number =>
      rw [hn] at hr
      cases number with
      | none => cases hr
      | some n =>
        simp only at hr ⊢
        cases hl : m.labelOf.get? (n : Int) with
        | none => rw [hl] at hr; cases hr
        | some found =>
          rw [hl] at hr
          rw [h.followed _ _ hl]
          exact hr
  · rename_i href
    rw [if_neg href] at hr
    exact hr

/-- A number that is new lies above every number that was there, and one label gets it. -/
theorem Grows.new_number {m m' : Numbering} (hm : m.Sound) (h : m.Grows m') {label : Text} {n : Int}
    (hnone : m.number? label = none) (hsome : m'.number? label = some n) :
    (∀ k, m.Holds k → k < n) ∧ ∀ other, m'.number? other = some n → other = label := by
  obtain ⟨hle, hlabel⟩ := h.fresh label n hnone hsome
  refine ⟨fun k hk => Int.lt_of_lt_of_le (hm.lt_of_holds hk) hle, fun other hother => ?_⟩
  cases ho : m.number? other with
  | none =>
    obtain ⟨_, hl⟩ := h.fresh other n ho hother
    rw [hlabel, Option.some.injEq] at hl
    exact hl.symm
  | some k =>
    -- an old label has an old number, which lies below the counter
    have hk := h.kept other k ho
    rw [hother, Option.some.injEq] at hk
    subst hk
    have := hm.lt_of_holds (Or.inl ⟨other, ho⟩)
    omega

/-- **Numbers are for good.**  Take any two moments of a history between which nothing is cleared,
from a new numbering or any loaded one.  What has a number at the first moment has it at the second; a
number handed out between them lies above every number of the first moment and belongs to one
label; and every reference that is resolved at the first moment is resolved alike at the second.
A compilation gives out its numbers one by one, so the moments inside it are moments of such a
history too.  The numbers are those that are told: the one that comes with an assignment, and those
that the nodes of a diagram carry. -/
theorem run_keeps_numbers {saved : Json} {start : Numbering} {early late : List Event}
    (hs : IsMapping saved) (hl : ofJson saved = .ok start) (hc : .clear ∉ late) :
    (∀ label n, (run start early).number? label = some n →
      (run start (early ++ late)).number? label = some n) ∧
    (∀ label n, (run start early).number? label = none →
      (run start (early ++ late)).number? label = some n →
      (∀ k, (run start early).Holds k → k < n) ∧
      ∀ other, (run start (early ++ late)).number? other = some n → other = label) ∧
    (∀ t label, (run start early).resolve t = .ok label →
      (run start (early ++ late)).resolve t = .ok label) ∧
    (∀ settings t, ∃ labels : List Text,
      run start (early ++ [.compile settings t]) = run start (early ++ labels.map .assign)) ∧
    (∀ label, (run start (early ++ [.assign label])).number? label =
      some ((run start early).assign label).2) ∧
    ∀ settings t d, (Sketch.compile settings (run start early) t).1 = .ok d →
      ∀ node ∈ d.nodes,
        (run start (early ++ [.compile settings t])).number? node.label = some node.number := by
  have hsound : (run start early).Sound := run_sound early (ofJson_sound hs hl)
  have hgrows : (run start early).Grows (run start (early ++ late)) := by
    rw [run_append]
    exact run_grows late hsound hc
  refine ⟨hgrows.kept, fun label n => hgrows.new_number hsound, fun t label => hgrows.resolve,
    fun settings t => ?_, fun label => ?_, fun settings t d hd node hnode => ?_⟩
  · obtain ⟨labels, h⟩ := Sketch.compile_numbering settings (run start early) t
    exact ⟨labels, by rw [run_append, run_append, run_assign]; exact h⟩
  · rw [run_append]
    exact number?_assign_self (run start early) label
  · obtain ⟨canvas, hcanvas, hafter, hnodes, -⟩ := Sketch.exists_sound_canvas (Prod.ext hd rfl)
    rw [run_append]
    exact (congrArg (·.number? node.label) hafter).trans
      (hcanvas.number_eq node (hnodes ▸ hnode))

/-- A mapping with two labels for one number, edited by hand. -/
theorem run_keeps_numbers_of_repeated :
    let saved : Json := .obj [("labelToId", .obj [("A", .int 3), ("B", .int 3)]), ("nextId", .int 0)]
    let start : Numbering := ⟨[("A", 3), ("B", 3)], [(3, "B")], 4⟩
    let late : List Event := [.compile ⟨true, true⟩ "C -> :3\n:9", .reload, .assign "D"]
    IsMapping saved ∧ ofJson saved = .ok start ∧ .clear ∉ late ∧
      (run start ([] ++ late)).resolve ":3" = .ok "B".toList := by
  intro saved start late
  have hs : IsMapping saved := isMapping_of_field? rfl (by decide)
  have hl : ofJson saved = .ok start := rfl
  have hc : Event.clear ∉ late := by simp [late]
  exact ⟨hs, hl, hc, (run_keeps_numbers hs hl hc).2.2.1 _ _ rfl⟩

end Numbering

end GraphSketch
