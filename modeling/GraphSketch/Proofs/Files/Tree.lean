import GraphSketch.Files.Tree

/-!
# What changes in a file tree

A path leads to one place only, whatever the tree is (`Path.location`); the tree decides whether
it can be followed so far (`locate_eq_ok`).  A program makes directories and writes files, but
takes nothing away: the tree after it has grown (`FileTree.Grows`), so that all paths that could
be followed still can be, and a file that was not written again is read as before
(`Grows.read_eq_ok`).

* `enter_mono`, `foldlM_enter_eq_ok` — a step along a path, and all steps, by induction on the
  names.
* `write_eq_ok`, `fileAt?_write`, `read_write` — what a write does: one location has the text
  afterwards, and the others are as they were.
* `grows_write`, `grows_makeDirs` — what programs do makes a tree grow; `makeDirsAt_induction`
  goes along the directories that are made.
-/

set_option autoImplicit false

namespace GraphSketch

/-- The place to which a name leads from a directory. -/
def FileTree.goTo (location : Location) (name : Text) : Location :=
  if name = upName then above location else location ++ [name]

/-- The place to which a path leads. -/
def Path.location (path : Path) : Location :=
  path.names.foldl FileTree.goTo (if path.root.isEmpty then [] else [FileTree.rootName])

namespace FileTree

variable {tree middle after : FileTree} {path : Path} {t : Text}

/-! ## Following paths -/

theorem enter_eq_ok {location next : Location} {name : Text}
    (h : tree.enter location name = .ok next) :
    next = goTo location name ∧ tree.isDirAt location = true ∧
      (name = upName ∨ byteCount name ≤ nameLimit) := by
  unfold enter at h
  split at h
  · rename_i hdir
    split at h
    · rename_i hup
      rw [goTo, if_pos hup]
      exact ⟨(Except.ok.inj h).symm, hdir, Or.inl hup⟩
    · rename_i hup
      split at h
      · cases h
      · rename_i hshort
        rw [goTo, if_neg hup]
        exact ⟨(Except.ok.inj h).symm, hdir, Or.inr (Nat.not_lt.mp hshort)⟩
  · split at h <;> cases h

theorem enter_mono (hdirs : ∀ l, tree.isDirAt l = true → after.isDirAt l = true)
    {location next : Location} {name : Text} (h : tree.enter location name = .ok next) :
    after.enter location name = .ok next := by
  obtain ⟨rfl, hdir, hname⟩ := enter_eq_ok h
  rw [enter, if_pos (hdirs _ hdir), goTo]
  split
  · rfl
  · rename_i hup
    rw [if_neg (Nat.not_lt.mpr (hname.resolve_left hup))]

theorem foldlM_enter_eq_ok (hdirs : ∀ l, tree.isDirAt l = true → after.isDirAt l = true) :
    ∀ {names : List Text} {location last : Location},
    names.foldlM tree.enter location = .ok last →
      last = names.foldl goTo location ∧ names.foldlM after.enter location = .ok last
  | [], location, last, h => ⟨(Except.ok.inj h).symm, h⟩
  | name :: names, location, last, h => by
    rw [List.foldlM_cons] at h ⊢
    cases hnext : tree.enter location name with
    | error problem => rw [hnext] at h; cases h
    | ok next =>
      rw [hnext] at h
      obtain ⟨hlast, hafter⟩ := foldlM_enter_eq_ok hdirs h
      rw [enter_mono hdirs hnext, List.foldl_cons, ← (enter_eq_ok hnext).1]
      exact ⟨hlast, hafter⟩

/-- **A path that can be followed leads to its location**, and can be followed in every tree that
has the same directories at least. -/
theorem locate_eq_ok (hdirs : ∀ l, tree.isDirAt l = true → after.isDirAt l = true)
    {location : Location} (h : tree.locate path = .ok location) :
    location = path.location ∧ after.locate path = .ok location := by
  unfold locate at h ⊢
  split at h
  · cases h
  · rename_i hnull
    split at h
    · cases h
    · rename_i hlong
      rw [if_neg hnull, if_neg hlong]
      exact foldlM_enter_eq_ok hdirs h

theorem eq_location {location : Location} (h : tree.locate path = .ok location) :
    location = path.location := (locate_eq_ok (fun _ => id) h).1

/-! ## Trees that have grown -/

/-- A tree that has all that another one has. -/
structure Grows (tree after : FileTree) : Prop where
  dirs : ∀ l ∈ tree.dirs, l ∈ after.dirs
  files : ∀ l, (tree.fileAt? l).isSome = true → (after.fileAt? l).isSome = true
  /-- No file has become a directory. -/
  apart : ∀ l, (tree.fileAt? l).isSome = true → tree.isDirAt l = false → after.isDirAt l = false

namespace Grows

theorem refl (tree : FileTree) : Grows tree tree := ⟨fun _ => id, fun _ => id, fun _ _ => id⟩

theorem trans (h₁ : Grows tree middle) (h₂ : Grows middle after) : Grows tree after :=
  ⟨fun l hl => h₂.dirs l (h₁.dirs l hl), fun l hl => h₂.files l (h₁.files l hl),
    fun l hl hdir => h₂.apart l (h₁.files l hl) (h₁.apart l hl hdir)⟩

theorem isDirAt (h : Grows tree after) {l : Location} (hl : tree.isDirAt l = true) :
    after.isDirAt l = true := by
  simp only [FileTree.isDirAt, Bool.or_eq_true, List.contains_iff_mem] at hl ⊢
  exact hl.imp_right (h.dirs l)

theorem locate (h : Grows tree after) {location : Location} (hl : tree.locate path = .ok location) :
    after.locate path = .ok location := (locate_eq_ok (fun _ => h.isDirAt) hl).2

end Grows

/-! ## Reading -/

theorem read_eq_ok_iff : tree.read path = .ok t ↔
    tree.locate path = .ok path.location ∧ tree.isDirAt path.location = false ∧
      tree.fileAt? path.location = some t := by
  unfold read
  cases hl : tree.locate path with
  | error problem => simp
  | ok location =>
    obtain rfl := eq_location hl
    cases hdir : tree.isDirAt path.location with
    | true => simp [hdir]
    | false => cases hfile : tree.fileAt? path.location <;> simp [hdir, hfile]

theorem find?_eq_file_iff : tree.find? path = .ok (some (.file t)) ↔ tree.read path = .ok t := by
  rw [read_eq_ok_iff, find?]
  cases hl : tree.locate path with
  | error problem => cases problem <;> simp
  | ok location =>
    obtain rfl := eq_location hl
    cases hdir : tree.isDirAt path.location with
    | true => simp [hdir]
    | false => cases hfile : tree.fileAt? path.location <;> simp [hdir, hfile]

/-- **A file that was not written again is read as before.** -/
theorem Grows.read_eq_ok (h : Grows tree after) (hread : tree.read path = .ok t)
    (hsame : after.fileAt? path.location = tree.fileAt? path.location) :
    after.read path = .ok t := by
  obtain ⟨hlocate, hdir, hfile⟩ := read_eq_ok_iff.mp hread
  exact read_eq_ok_iff.mpr
    ⟨h.locate hlocate, h.apart _ (by rw [hfile]; rfl) hdir, hsame.trans hfile⟩

/-! ## Writing and making directories -/

theorem write_eq_ok (h : tree.write path t = .ok after) :
    tree.locate path = .ok path.location ∧ tree.isDirAt path.location = false ∧
      after = { tree with files := tree.files.put path.location t } := by
  unfold write at h
  cases hl : tree.locate path with
  | error problem => rw [hl] at h; cases h
  | ok location =>
    obtain rfl := eq_location hl
    simp only [hl] at h
    cases hdir : tree.isDirAt path.location with
    | true => rw [hdir] at h; cases h
    | false =>
      rw [hdir] at h
      exact ⟨rfl, rfl, (Except.ok.inj h).symm⟩

theorem fileAt?_write (h : tree.write path t = .ok after) (l : Location) :
    after.fileAt? l = if l = path.location then some t else tree.fileAt? l := by
  obtain ⟨-, -, rfl⟩ := write_eq_ok h
  split
  · rename_i hl
    rw [hl]
    exact OrderedMap.get?_put_self _ _ _
  · rename_i hl
    exact OrderedMap.get?_put_of_ne _ _ (Ne.symm hl)

theorem grows_write (h : tree.write path t = .ok after) : Grows tree after := by
  have hfile := fileAt?_write h
  obtain ⟨-, -, rfl⟩ := write_eq_ok h
  refine ⟨fun _ => id, fun l hl => ?_, fun _ _ => id⟩
  rw [hfile]
  split
  · rfl
  · exact hl

theorem read_write (h : tree.write path t = .ok after) : after.read path = .ok t := by
  have hfile := fileAt?_write h path.location
  have hgrows := grows_write h
  obtain ⟨hlocate, hdir, rfl⟩ := write_eq_ok h
  exact read_eq_ok_iff.mpr ⟨hgrows.locate hlocate, hdir, by rw [hfile, if_pos rfl]⟩

theorem grows_makeDir (h : tree.makeDir path = .ok after) :
    Grows tree after ∧ after.files = tree.files := by
  unfold makeDir at h
  split at h
  · cases h
  · split at h
    · cases h
      exact ⟨Grows.refl _, rfl⟩
    · split at h
      · cases h
      · rename_i location _ hdir hfile
        cases h
        refine ⟨⟨fun l hl => List.mem_append_left _ hl, fun _ => id, fun l hl hnot => ?_⟩, rfl⟩
        have hne : l ≠ location := by
          rintro rfl
          exact hfile hl
        simp only [FileTree.isDirAt, Bool.or_eq_false_iff] at hnot ⊢
        simpa [hne] using hnot

/-- Directories are made by making the last one, where need be after those above it. -/
theorem makeDirsAt_induction {root : Text} {motive : List Text → FileTree → FileTree → Prop}
    (last : ∀ {names : List Text} {tree after : FileTree},
      tree.makeDir ⟨root, names.reverse⟩ = .ok after → motive names tree after)
    (step : ∀ {name : Text} {names : List Text} {tree above after : FileTree},
      motive names tree above → above.makeDir ⟨root, (name :: names).reverse⟩ = .ok after →
        motive (name :: names) tree after) :
    ∀ {names : List Text} {tree after : FileTree}, makeDirsAt root names tree = .ok after →
      motive names tree after
  | [], tree, after, h => by
    rw [makeDirsAt] at h
    cases hmake : tree.makeDir ⟨root, []⟩ with
    | error problem => rw [hmake] at h; cases h
    | ok made =>
      rw [hmake] at h
      cases h
      exact last hmake
  | name :: names, tree, after, h => by
    rw [makeDirsAt] at h
    split at h
    · rename_i hmake
      exact Except.ok.inj h ▸ last hmake
    · -- the directories above are made first
      cases hrest : makeDirsAt root names tree with
      | error fault => rw [hrest] at h; cases h
      | ok above =>
        rw [hrest] at h
        change (above.makeDir _).mapError _ = _ at h
        cases hmake : above.makeDir ⟨root, (name :: names).reverse⟩ with
        | error problem => rw [hmake] at h; cases h
        | ok made =>
          rw [hmake] at h
          exact Except.ok.inj h ▸ step (makeDirsAt_induction last step hrest) hmake
    · cases h

theorem grows_makeDirs (h : tree.makeDirs path = .ok after) :
    Grows tree after ∧ after.files = tree.files :=
  makeDirsAt_induction (motive := fun _ tree after => Grows tree after ∧ after.files = tree.files)
    grows_makeDir (fun habove hmake =>
      ⟨habove.1.trans (grows_makeDir hmake).1, (grows_makeDir hmake).2.trans habove.2⟩) h

end FileTree

end GraphSketch
