import GraphSketch.Cli.Convert
import GraphSketch.Proofs.Files.Tree
import GraphSketch.Proofs.Json.RoundTrip

/-!
# Runs of a conversion that return

A conversion changes files step by step and may fail on the way.  `Convert.Returns` says that it
does not, with what it returns and the files after it; there is one equivalence for each step
(`returns_bind_iff`, `returns_readText_iff`, `returns_writeJson_iff` and so on), by which a run is
taken apart.  `Convert.Fails` says that it does, and `Convert.ReadsOnly` that no file is changed
either way.

* `Returns.unique` — a run returns one thing only.
* `Fails.bind`, `Returns.bind_fails` — a sequence fails in its first part, or in its second with
  the files that the first one has left.
* `ReadsOnly.bind` — to read and then to read is to read; `ReadsOnly.eq_of_returns` and
  `ReadsOnly.eq_of_fails` are what this says about the files.

The state and the exceptions of a `Shell` are not unfolded anywhere else.
-/

set_option autoImplicit false

namespace GraphSketch

namespace Convert

variable {α β : Type} {tree after : FileTree}

/-- A computation returns a value and leaves the files `after`. -/
def Returns (x : Shell α) (tree : FileTree) (a : α) (after : FileTree) : Prop :=
  x.run.run tree = (.ok a, after)

theorem Returns.unique {x : Shell α} {a b : α} {other : FileTree} (h : Returns x tree a after)
    (h' : Returns x tree b other) : b = a ∧ other = after := by
  cases h.symm.trans h'
  exact ⟨rfl, rfl⟩

theorem returns_pure_iff {a b : α} : Returns (pure a) tree b after ↔ b = a ∧ after = tree := by
  refine ⟨fun h => ?_, fun ⟨hb, hafter⟩ => hb ▸ hafter ▸ rfl⟩
  cases h
  exact ⟨rfl, rfl⟩

theorem not_returns_throw {fault : ConvertFault} {a : α} :
    ¬ Returns (throw fault) tree a after := fun h => by cases h

theorem run_bind (x : Shell α) (f : α → Shell β) (tree : FileTree) :
    (x >>= f).run.run tree =
      match x.run.run tree with
      | (.ok a, middle) => (f a).run.run middle
      | (.error fault, middle) => (.error fault, middle) := by
  change (match x tree with | (r, middle) => ExceptT.bindCont f r middle) = _
  change _ = match x tree with
    | (.ok a, middle) => f a middle
    | (.error fault, middle) => (.error fault, middle)
  rcases x tree with ⟨a | fault, middle⟩ <;> rfl

theorem returns_bind_iff {x : Shell α} {f : α → Shell β} {b : β} :
    Returns (x >>= f) tree b after ↔
      ∃ a middle, Returns x tree a middle ∧ Returns (f a) middle b after := by
  rw [Returns, run_bind]
  rcases hx : x.run.run tree with ⟨fault | a, middle⟩
  · refine ⟨fun h => (nomatch h), fun ⟨a, m, h, _⟩ => ?_⟩
    rw [Returns, hx] at h
    cases h
  · refine ⟨fun h => ⟨a, middle, hx, h⟩, fun ⟨a', m, h, h'⟩ => ?_⟩
    rw [Returns, hx] at h
    cases h
    exact h'

theorem returns_get_iff {files : FileTree} :
    Returns get tree files after ↔ files = tree ∧ after = tree := by
  constructor
  · intro h
    cases h
    exact ⟨rfl, rfl⟩
  · rintro ⟨rfl, rfl⟩
    rfl

theorem returns_set_iff {files : FileTree} {u : PUnit} :
    Returns (set files) tree u after ↔ after = files := by
  refine ⟨fun h => ?_, fun h => h ▸ rfl⟩
  cases h
  rfl

/-! ## Runs that fail -/

/-- A computation fails and leaves the files `after`. -/
def Fails (x : Shell α) (tree : FileTree) (fault : ConvertFault) (after : FileTree) : Prop :=
  x.run.run tree = (.error fault, after)

theorem fails_throw (fault : ConvertFault) : Fails (throw fault : Shell α) tree fault tree := rfl

theorem Fails.bind {x : Shell α} {f : α → Shell β} {fault : ConvertFault}
    (h : Fails x tree fault after) : Fails (x >>= f) tree fault after := by
  rw [Fails, run_bind, h]

theorem Returns.bind_fails {x : Shell α} {f : α → Shell β} {a : α} {fault : ConvertFault}
    {last : FileTree} (h : Returns x tree a after) (hf : Fails (f a) after fault last) :
    Fails (x >>= f) tree fault last := by
  rw [Fails, run_bind, h]
  exact hf

/-- A computation changes no file, whether it fails or not. -/
def ReadsOnly (x : Shell α) : Prop := ∀ tree, (x.run.run tree).2 = tree

theorem readsOnly_pure (a : α) : ReadsOnly (pure a : Shell α) := fun _ => rfl

theorem readsOnly_throw (fault : ConvertFault) : ReadsOnly (throw fault : Shell α) := fun _ => rfl

theorem readsOnly_get : ReadsOnly (get : Shell FileTree) := fun _ => rfl

theorem ReadsOnly.bind {x : Shell α} {f : α → Shell β} (hx : ReadsOnly x)
    (hf : ∀ a, ReadsOnly (f a)) : ReadsOnly (x >>= f) := by
  intro tree
  have hsame := hx tree
  rw [run_bind]
  rcases h : x.run.run tree with ⟨fault | a, middle⟩
  · rwa [h] at hsame
  · rw [h] at hsame
    obtain rfl : middle = tree := hsame
    exact hf a middle

theorem ReadsOnly.eq_of_returns {x : Shell α} {a : α} (hx : ReadsOnly x)
    (h : Returns x tree a after) : after = tree := by
  have hsame := hx tree
  rwa [h] at hsame

theorem ReadsOnly.eq_of_fails {x : Shell α} {fault : ConvertFault} (hx : ReadsOnly x)
    (h : Fails x tree fault after) : after = tree := by
  have hsame := hx tree
  rwa [h] at hsame

/-! ## Steps -/

theorem readsOnly_readText (path : Path) : ReadsOnly (readText path) := by
  refine readsOnly_get.bind fun tree => ?_
  split
  · exact readsOnly_pure _
  · exact readsOnly_throw _

theorem returns_readText_iff {path : Path} {t : Text} :
    Returns (readText path) tree t after ↔
      (∃ raw, tree.read path = .ok raw ∧ t = Sketch.unifyLineEnds raw) ∧ after = tree := by
  simp only [readText, returns_bind_iff, returns_get_iff, and_assoc]
  cases hread : tree.read path with
  | error fault => simp [hread, not_returns_throw]
  | ok raw => simp [hread, returns_pure_iff]

theorem returns_change_iff {f : FileTree → Except FileFault FileTree} {u : Unit} :
    Returns (change f) tree u after ↔ f tree = .ok after := by
  simp only [change, returns_bind_iff, returns_get_iff, and_assoc]
  cases hf : f tree with
  | error fault => simp [hf, not_returns_throw]
  | ok changed => simp [hf, returns_set_iff, eq_comm]

theorem fails_change {f : FileTree → Except FileFault FileTree} {cause : FileFault}
    (h : f tree = .error cause) : Fails (change f) tree (.file cause) tree := by
  refine (returns_get_iff.mpr ⟨rfl, rfl⟩).bind_fails ?_
  rw [h]
  exact fails_throw _

theorem fails_readText {path : Path} {cause : FileFault} (h : tree.read path = .error cause) :
    Fails (readText path) tree (.file cause) tree := by
  refine (returns_get_iff.mpr ⟨rfl, rfl⟩).bind_fails ?_
  rw [h]
  exact fails_throw _

theorem returns_writeText_iff {path : Path} {t : Text} {u : Unit} :
    Returns (writeText path t) tree u after ↔ tree.write path t = .ok after :=
  returns_change_iff

theorem returns_writeJson_iff {path : Path} {v : Json} {u : Unit} :
    Returns (writeJson path v) tree u after ↔
      v.isWritable = true ∧ tree.write path v.pretty = .ok after := by
  rw [writeJson, returns_bind_iff]
  cases hw : v.isWritable with
  | false =>
    simp [not_returns_throw]
  | true =>
    simp [returns_writeText_iff, returns_pure_iff, Json.beforeMark_of_isWritable hw]

theorem returns_withSuffix_iff {path p : Path} {suffix : Text} :
    Returns (withSuffix path suffix) tree p after ↔
      path.withSuffix? suffix = some p ∧ after = tree := by
  rw [withSuffix]
  cases path.withSuffix? suffix with
  | none => simp [not_returns_throw]
  | some q => simp [returns_pure_iff, eq_comm]

end Convert

end GraphSketch
