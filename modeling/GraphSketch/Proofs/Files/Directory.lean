import GraphSketch.Proofs.Files.Tree
import Mathlib.Data.List.Infix
import Mathlib.Data.List.Nodup

/-!
# Names in a directory

Once a path leads to a directory (`FileTree.IsDir`), a name in it can be used or not by itself:
what matters is how long it is and whether a directory is there already (`locate_child_eq_ok_iff`,
`takes_child`).  To make a directory is to make those that its path leads through, and no others
(`isDirAt_makeDirs_iff`), so that in a directory that was missing or empty it is the path alone
that tells which names are taken (`takes_child_makeDirs`).

* `Path.passes` — a path leads through a location, or to it.
* `FileTree.takes` — a text can be written to a path (`write_of_takes`, `write_of_not_takes`).
* `FileTree.WellFormed` — what is in a tree is in a directory of it, and there is one thing at a
  location; so a directory that is missing is empty (`vacant_of_missing`), and its names are
  listed once (`nodup_list`).
-/

set_option autoImplicit false

namespace GraphSketch

namespace Path

/-- Whether a file system takes the spelling of a path and its last name. -/
def isUsable (path : Path) : Bool :=
  !path.toText.any (· = '\x00') && FileTree.byteCount path.toText ≤ FileTree.pathLimit &&
    FileTree.byteCount path.name ≤ FileTree.nameLimit

/-- Whether a path leads through a location, or to it. -/
def passes (path : Path) (location : Location) : Bool :=
  path.names.inits.any fun names => (Path.mk path.root names).location = location

theorem passes_iff {path : Path} {l : Location} :
    path.passes l = true ↔ ∃ names, names <+: path.names ∧ (Path.mk path.root names).location = l := by
  simp only [passes, List.any_eq_true, List.mem_inits, decide_eq_true_eq]

theorem passes_location (path : Path) : path.passes path.location = true :=
  passes_iff.mpr ⟨path.names, List.prefix_rfl, rfl⟩

theorem name_child (path : Path) (name : Text) : (path.child name).name = name := by
  rw [Path.name, child, List.getLast?_concat, Option.getD_some]

theorem parent_child (path : Path) (name : Text) : (path.child name).parent = path := by
  rw [parent, child, List.dropLast_concat]

theorem location_child (path : Path) {name : Text} (hname : name ≠ FileTree.upName) :
    (path.child name).location = path.location ++ [name] := by
  change (path.names ++ [name]).foldl FileTree.goTo _ = _
  rw [List.foldl_append, List.foldl_cons, List.foldl_nil, FileTree.goTo, if_neg hname]
  rfl

end Path

namespace FileTree

variable {tree after : FileTree} {path dir : Path} {name t : Text} {l : Location}

/-! ## Directories -/

/-- A path leads to a directory. -/
structure IsDir (tree : FileTree) (path : Path) : Prop where
  located : tree.locate path = .ok path.location
  isDirAt : tree.isDirAt path.location = true

theorem Grows.isDir (h : Grows tree after) (hdir : tree.IsDir path) : after.IsDir path :=
  ⟨h.locate hdir.located, h.isDirAt hdir.isDirAt⟩

theorem IsDir.isDirAt_of_passes (h : tree.IsDir path) (hl : path.passes l = true) :
    tree.isDirAt l = true := by
  obtain ⟨names, ⟨rest, hnames⟩, rfl⟩ := Path.passes_iff.mp hl
  have hlocated := h.located
  unfold locate at hlocated
  split at hlocated
  · cases hlocated
  · split at hlocated
    · cases hlocated
    · rw [← hnames, List.foldlM_append] at hlocated
      cases hfirst : names.foldlM tree.enter (if path.root.isEmpty then [] else [rootName]) with
      | error problem => rw [hfirst] at hlocated; cases hlocated
      | ok middle =>
        rw [hfirst] at hlocated
        have hmiddle := (foldlM_enter_eq_ok (fun l (hl : tree.isDirAt l = true) => hl) hfirst).1
        change middle = (Path.mk path.root names).location at hmiddle
        rw [← hmiddle]
        cases rest with
        | nil =>
          have hlast : middle = path.location := Except.ok.inj hlocated
          exact hlast ▸ h.isDirAt
        | cons name rest =>
          change (name :: rest).foldlM tree.enter middle = _ at hlocated
          rw [List.foldlM_cons] at hlocated
          cases hnext : tree.enter middle name with
          | error problem => rw [hnext] at hlocated; cases hlocated
          | ok next => exact (enter_eq_ok hnext).2.1

/-! ## Names in a directory -/

/-- **A name in a directory can be followed** if the file system takes it. -/
theorem locate_child_eq_ok_iff (h : tree.IsDir dir) (hname : name ≠ upName) :
    tree.locate (dir.child name) = .ok l ↔
      (dir.child name).isUsable = true ∧ l = dir.location ++ [name] := by
  have hfirst : dir.names.foldlM tree.enter (if dir.root.isEmpty then [] else [rootName]) =
      .ok dir.location := by
    have hlocated := h.located
    unfold locate at hlocated
    split at hlocated
    · cases hlocated
    · split at hlocated
      · cases hlocated
      · exact hlocated
  have henter : tree.enter dir.location name =
      if nameLimit < byteCount name then .error .nameTooLong else .ok (dir.location ++ [name]) := by
    rw [enter, if_pos h.isDirAt, if_neg hname]
  unfold locate Path.isUsable
  rw [Path.name_child]
  split
  · rename_i hnull
    simp [hnull]
  · rename_i hnull
    split
    · rename_i hlong
      simp [Nat.not_le.mpr hlong]
    · rename_i hshort
      have hchild : (dir.child name).names.foldlM tree.enter
          (if (dir.child name).root.isEmpty then [] else [rootName]) =
            tree.enter dir.location name := by
        change (dir.names ++ [name]).foldlM tree.enter
          (if dir.root.isEmpty then [] else [rootName]) = _
        rw [List.foldlM_append, hfirst]
        exact bind_pure (tree.enter dir.location name)
      rw [hchild, henter]
      split
      · rename_i hlimit
        simp [Nat.not_le.mpr hlimit]
      · rename_i hlimit
        simp [Bool.eq_false_iff.mpr hnull, Nat.not_lt.mp hshort, Nat.not_lt.mp hlimit, eq_comm]

theorem read_child_eq_ok_iff (h : tree.IsDir dir) (hname : name ≠ upName) :
    tree.read (dir.child name) = .ok t ↔ (dir.child name).isUsable = true ∧
      tree.isDirAt (dir.location ++ [name]) = false ∧
      tree.fileAt? (dir.location ++ [name]) = some t := by
  rw [read_eq_ok_iff, Path.location_child dir hname, locate_child_eq_ok_iff h hname,
    and_iff_left rfl]

/-- Whether a text can be written to a path. -/
def takes (tree : FileTree) (path : Path) : Bool :=
  match tree.locate path with
  | .ok location => !tree.isDirAt location
  | .error _ => false

theorem write_of_takes (h : tree.takes path = true) (t : Text) :
    tree.write path t = .ok { tree with files := tree.files.put path.location t } := by
  unfold takes at h
  cases hl : tree.locate path with
  | error problem => rw [hl] at h; cases h
  | ok location =>
    obtain rfl := eq_location hl
    rw [hl] at h
    simp only [Bool.not_eq_true'] at h
    simp only [write, hl, h, Bool.false_eq_true, if_false]

theorem write_of_not_takes (h : tree.takes path = false) (t : Text) :
    ∃ fault, tree.write path t = .error fault := by
  unfold takes at h
  cases hl : tree.locate path with
  | error problem => exact ⟨_, by rw [write, hl]⟩
  | ok location =>
    rw [hl] at h
    simp only [Bool.not_eq_false'] at h
    exact ⟨⟨.isADirectory, path⟩, by simp only [write, hl, h, if_true]⟩

theorem takes_child (h : tree.IsDir dir) (hname : name ≠ upName) :
    tree.takes (dir.child name) =
      ((dir.child name).isUsable && !tree.isDirAt (dir.location ++ [name])) := by
  unfold takes
  cases hl : tree.locate (dir.child name) with
  | ok location =>
    obtain ⟨husable, rfl⟩ := (locate_child_eq_ok_iff h hname).mp hl
    rw [husable, Bool.true_and]
  | error problem =>
    cases husable : (dir.child name).isUsable with
    | false => rfl
    | true =>
      rw [(locate_child_eq_ok_iff h hname).mpr ⟨husable, rfl⟩] at hl
      cases hl

theorem locate_eq_ok_iff_of_dirs_eq (h : after.dirs = tree.dirs) :
    after.locate path = .ok l ↔ tree.locate path = .ok l := by
  have hdir : ∀ l, after.isDirAt l = tree.isDirAt l := fun l => by
    rw [FileTree.isDirAt, h, FileTree.isDirAt]
  exact ⟨fun hl => (locate_eq_ok (fun l => hdir l ▸ id) hl).2,
    fun hl => (locate_eq_ok (fun l => hdir l ▸ id) hl).2⟩

theorem IsDir.of_dirs_eq (h : tree.IsDir path) (hdirs : after.dirs = tree.dirs) :
    after.IsDir path :=
  ⟨(locate_eq_ok_iff_of_dirs_eq hdirs).mpr h.located, by
    rw [FileTree.isDirAt, hdirs]
    exact h.isDirAt⟩

theorem takes_of_dirs_eq (h : after.dirs = tree.dirs) : after.takes path = tree.takes path := by
  have hdir : ∀ l, after.isDirAt l = tree.isDirAt l := fun l => by
    rw [FileTree.isDirAt, h, FileTree.isDirAt]
  unfold takes
  cases hl : tree.locate path with
  | ok l => simp only [(locate_eq_ok_iff_of_dirs_eq h).mpr hl, hdir]
  | error problem =>
    cases hl' : after.locate path with
    | ok l =>
      rw [(locate_eq_ok_iff_of_dirs_eq h).mp hl'] at hl
      cases hl
    | error problem' => rfl

/-! ## Making directories -/

theorem makeDir_of_isDir (h : tree.IsDir path) : tree.makeDir path = .ok tree := by
  simp only [makeDir, h.located, h.isDirAt, if_true]

theorem makeDirs_of_isDir (h : tree.IsDir path) : tree.makeDirs path = .ok tree := by
  obtain ⟨root, names⟩ := path
  have hmake : ∀ backwards : List Text, tree.IsDir ⟨root, backwards.reverse⟩ →
      makeDirsAt root backwards tree = .ok tree := by
    intro backwards hdir
    cases backwards with
    | nil =>
      rw [makeDirsAt]
      change (tree.makeDir ⟨root, [].reverse⟩).mapError _ = _
      rw [makeDir_of_isDir hdir]
      rfl
    | cons name names =>
      rw [makeDirsAt]
      simp only [makeDir_of_isDir hdir]
  exact hmake names.reverse (by rwa [List.reverse_reverse])

/-- What is made is a directory, and there is no other new one. -/
theorem of_makeDir_eq_ok (h : tree.makeDir path = .ok after) :
    after.IsDir path ∧ ∀ l, after.isDirAt l = true → tree.isDirAt l = true ∨ l = path.location := by
  have hgrows := (grows_makeDir h).1
  unfold makeDir at h
  cases hl : tree.locate path with
  | error problem => rw [hl] at h; cases h
  | ok location =>
    obtain rfl := eq_location hl
    simp only [hl] at h
    split at h
    · rename_i hdir
      cases h
      exact ⟨⟨hl, hdir⟩, fun l => Or.inl⟩
    · split at h
      · cases h
      · cases h
        refine ⟨⟨hgrows.locate hl, ?_⟩, fun l hdir => ?_⟩
        · simp [FileTree.isDirAt]
        · simp only [FileTree.isDirAt, Bool.or_eq_true, List.contains_iff_mem, List.mem_append,
            List.mem_singleton] at hdir ⊢
          exact or_assoc.mpr hdir

theorem of_makeDirsAt_eq_ok {root : Text} {backwards : List Text}
    (h : makeDirsAt root backwards tree = .ok after) :
    after.IsDir ⟨root, backwards.reverse⟩ ∧ ∀ l, after.isDirAt l = true →
      tree.isDirAt l = true ∨ (Path.mk root backwards.reverse).passes l = true := by
  refine makeDirsAt_induction (motive := fun names tree after =>
    after.IsDir ⟨root, names.reverse⟩ ∧ ∀ l, after.isDirAt l = true →
      tree.isDirAt l = true ∨ (Path.mk root names.reverse).passes l = true) ?_ ?_ h
  · intro names tree after hmake
    obtain ⟨hdir, hnew⟩ := of_makeDir_eq_ok hmake
    refine ⟨hdir, fun l hl => ?_⟩
    rcases hnew l hl with hl | rfl
    · exact Or.inl hl
    · exact Or.inr (Path.passes_location _)
  · intro name names tree above after habove hmake
    obtain ⟨hdir, hnew⟩ := of_makeDir_eq_ok hmake
    refine ⟨hdir, fun l hl => ?_⟩
    rcases hnew l hl with hl | rfl
    · refine (habove.2 l hl).imp_right fun hpasses => ?_
      obtain ⟨way, hway, heq⟩ := Path.passes_iff.mp hpasses
      refine Path.passes_iff.mpr ⟨way, ?_, heq⟩
      rw [List.reverse_cons]
      exact hway.trans (List.prefix_append _ _)
    · exact Or.inr (Path.passes_location _)

/-- The path of directories that are made leads to a directory. -/
theorem isDir_makeDirs (h : tree.makeDirs path = .ok after) : after.IsDir path := by
  have hdir := (of_makeDirsAt_eq_ok h).1
  rwa [List.reverse_reverse] at hdir

/-- **The directories that are made are those that the path leads through.** -/
theorem isDirAt_makeDirs_iff (h : tree.makeDirs path = .ok after) :
    after.isDirAt l = true ↔ tree.isDirAt l = true ∨ path.passes l = true := by
  constructor
  · intro hl
    have hnew := (of_makeDirsAt_eq_ok h).2 l hl
    rwa [List.reverse_reverse] at hnew
  · rintro (hl | hl)
    · exact (grows_makeDirs h).1.isDirAt hl
    · exact (isDir_makeDirs h).isDirAt_of_passes hl

/-- To make directories keeps what can be read in one that was there. -/
theorem read_child_makeDirs (h : tree.makeDirs path = .ok after) (hdir : tree.IsDir dir)
    (hname : name ≠ upName) :
    (after.read (dir.child name)).toOption = (tree.read (dir.child name)).toOption := by
  obtain ⟨hgrows, hfiles⟩ := grows_makeDirs h
  have hsome : ∀ {x : Except FileFault Text} {t : Text}, x.toOption = some t ↔ x = .ok t := by
    rintro (fault | u) t <;> simp [Except.toOption]
  ext t
  simp only [hsome, read_child_eq_ok_iff (hgrows.isDir hdir) hname,
    read_child_eq_ok_iff hdir hname, FileTree.fileAt?, hfiles]
  refine and_congr_right fun _ => and_congr_left fun hfile => ⟨fun hnot => ?_, fun hnot => ?_⟩
  · refine Bool.eq_false_iff.mpr fun htrue => ?_
    rw [hgrows.isDirAt htrue] at hnot
    cases hnot
  · exact hgrows.apart _ (by rw [FileTree.fileAt?, hfile]; rfl) hnot

/-! ## Well-formed trees -/

/-- What is in a tree is in a directory of it, and there is one thing at a location. -/
structure WellFormed (tree : FileTree) : Prop where
  nodup : tree.locations.Nodup
  parent : ∀ l ∈ tree.locations, tree.isDirAt l.dropLast = true

/-- There is nothing in a directory. -/
def Vacant (tree : FileTree) (location : Location) : Prop :=
  ∀ name, location ++ [name] ∉ tree.locations

theorem WellFormed.vacant_of_missing (h : tree.WellFormed) (hl : tree.isDirAt l = false) :
    tree.Vacant l := by
  intro name hmem
  have hparent := h.parent _ hmem
  rw [List.dropLast_concat, hl] at hparent
  cases hparent

/-- **The path of a directory tells which names can be written in it**, if there was nothing in it
before it was made. -/
theorem takes_child_makeDirs (h : tree.makeDirs dir = .ok after)
    (hvacant : tree.Vacant dir.location) (hup : name ≠ upName) (hroot : name ≠ rootName) :
    after.takes (dir.child name) =
      ((dir.child name).isUsable && !dir.passes (dir.location ++ [name])) := by
  have hbefore : tree.isDirAt (dir.location ++ [name]) = false := by
    rw [FileTree.isDirAt, Bool.or_eq_false_iff]
    constructor
    · simp [isAncestor, hup, hroot]
    · rw [Bool.eq_false_iff, ne_eq, List.contains_iff_mem]
      exact fun hmem => hvacant name (List.mem_append_left _ hmem)
  have hafter : after.isDirAt (dir.location ++ [name]) = dir.passes (dir.location ++ [name]) := by
    rw [Bool.eq_iff_iff, isDirAt_makeDirs_iff h, hbefore]
    simp
  rw [takes_child (isDir_makeDirs h) hup, hafter]

theorem nodup_locations_makeDir (hnodup : tree.locations.Nodup)
    (h : tree.makeDir path = .ok after) : after.locations.Nodup := by
  unfold makeDir at h
  split at h
  · cases h
  · rename_i location _
    split at h
    · cases h
      exact hnodup
    · rename_i hdir
      split at h
      · cases h
      · rename_i hfile
        cases h
        rw [locations, List.append_assoc, List.singleton_append, List.nodup_middle,
          List.nodup_cons]
        refine ⟨fun hmem => ?_, hnodup⟩
        rcases List.mem_append.mp hmem with hmem | hmem
        · exact hdir (by simp [FileTree.isDirAt, hmem])
        · refine hfile (Option.isSome_iff_ne_none.mpr fun hnone => ?_)
          exact (OrderedMap.get?_eq_none_iff _ _).mp hnone hmem

theorem nodup_locations_makeDirs (hnodup : tree.locations.Nodup)
    (h : tree.makeDirs path = .ok after) : after.locations.Nodup :=
  makeDirsAt_induction
    (motive := fun _ tree after => tree.locations.Nodup → after.locations.Nodup)
    (fun hmake hnodup => nodup_locations_makeDir hnodup hmake)
    (fun habove hmake hnodup => nodup_locations_makeDir (habove hnodup) hmake) h hnodup

/-! ## Listing a directory -/

theorem mem_list_iff (h : tree.IsDir dir) :
    name ∈ tree.list dir ↔ dir.location ++ [name] ∈ tree.locations := by
  have hlist : tree.list dir = tree.locations.filterMap fun other =>
      if !other.isEmpty && other.dropLast = dir.location then other.getLast? else none := by
    rw [list, h.located]
  rw [hlist, List.mem_filterMap]
  constructor
  · rintro ⟨other, hmem, hother⟩
    split at hother
    · rename_i hin
      simp only [Bool.and_eq_true, decide_eq_true_eq] at hin
      rw [← hin.2, List.dropLast_append_getLast? name hother]
      exact hmem
    · cases hother
  · intro hmem
    refine ⟨_, hmem, ?_⟩
    simp

theorem nodup_list (h : tree.locations.Nodup) : (tree.list dir).Nodup := by
  unfold list
  split
  · exact List.nodup_nil
  · refine List.Nodup.filterMap (fun other other' name hother hother' => ?_) h
    simp only [Option.mem_def, Option.ite_none_right_eq_some, Bool.and_eq_true,
      decide_eq_true_eq] at hother hother'
    rw [← List.dropLast_append_getLast? name hother.2,
      ← List.dropLast_append_getLast? name hother'.2, hother.1.2, hother'.1.2]

end FileTree

end GraphSketch
