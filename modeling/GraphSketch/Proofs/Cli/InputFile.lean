import GraphSketch.Proofs.Cli.BatchFile

/-!
# The file that is converted

Where no other file is named, the document of a sketch and its code go to files beside it that have
its stem.  A run writes these files only, so that the sketch stays as it is unless its own suffix is
that of a file which is written: then it is replaced.

* `Path.stemOf_append_suffixOf` — a name is its stem and its suffix.
* `Path.location_sibling_eq_iff` — a file with the stem of a path is the file at the path exactly if
  it has its suffix too.
* `Convert.of_returns_store_others` — what is stored changes its own files and no others.
* `Convert.LoneRun.exists_leaves` — the sketch, the document, the code and all other files after a run.
-/

set_option autoImplicit false

namespace GraphSketch

/-! ## Files beside a file -/

namespace Path

theorem suffixOf_isSuffix (name : Text) : suffixOf name <:+ name := by
  have hparts := List.takeWhile_append_dropWhile (p := fun c => decide (c ≠ '.'))
    (l := name.reverse)
  have hhead := List.head?_dropWhile_not (fun c => decide (c ≠ '.')) name.reverse
  unfold suffixOf
  generalize name.reverse.takeWhile (fun c => decide (c ≠ '.')) = tail,
    name.reverse.dropWhile (fun c => decide (c ≠ '.')) = back at hparts hhead ⊢
  dsimp only
  split
  · exact List.nil_suffix
  · rename_i hsome
    -- what is left over at the end begins with a dot, since there is something before it
    cases back with
    | nil => simp at hsome
    | cons c front =>
      obtain rfl : c = '.' := by simpa using hhead
      refine ⟨front.reverse, ?_⟩
      rw [← List.reverse_inj, ← hparts]
      simp

/-- **A name is its stem and its suffix.** -/
theorem stemOf_append_suffixOf (name : Text) : stemOf name ++ suffixOf name = name := by
  obtain ⟨stem, h⟩ := suffixOf_isSuffix name
  have hlength := congrArg List.length h
  rw [List.length_append] at hlength
  have hstem : stemOf name = stem := by
    rw [stemOf, show name.length - (suffixOf name).length = stem.length by omega,
      ← List.prefix_iff_eq_take.mp ⟨_, h⟩]
  rw [hstem, h]

/-- The path to a file in the same directory that has the same stem. -/
def sibling (path : Path) (suffix : Text) : Path := path.parent.child (path.stem ++ suffix)

theorem child_parent_name {path : Path} (h : path.name ≠ []) : path.parent.child path.name = path := by
  obtain ⟨root, names⟩ := path
  have hne : names ≠ [] := by
    rintro rfl
    exact h rfl
  rw [name, List.getLast?_eq_some_getLast hne, Option.getD_some, parent, child]
  simp [List.dropLast_append_getLast hne]

theorem withSuffix?_eq_some_iff {path p : Path} {suffix : Text} :
    path.withSuffix? suffix = some p ↔ path.name ≠ [] ∧ path.sibling suffix = p := by
  rw [withSuffix?, sibling, ne_eq, ← List.isEmpty_iff]
  split <;> simp_all

theorem location_eq_goTo {path : Path} (h : path.name ≠ []) :
    path.location = FileTree.goTo path.parent.location path.name := by
  conv_lhs => rw [← child_parent_name h]
  exact List.foldl_concat ..

/-- From a directory two names lead to different places, if the second is not the one that leads
back. -/
theorem goTo_ne_append {l : Location} {name other : Text} (h : name ≠ other) :
    FileTree.goTo l name ≠ l ++ [other] := by
  intro heq
  have hlength := congrArg List.length heq
  rw [List.length_append, List.length_singleton] at hlength
  unfold FileTree.goTo at heq hlength
  split at heq
  · rename_i hup
    rw [if_pos hup] at hlength
    unfold FileTree.above at heq hlength
    split at heq
    · rename_i hroot
      rw [if_pos hroot] at hlength
      omega
    · rename_i hroot
      split at heq
      · exact h (hup.trans (List.singleton_inj.mp (List.append_cancel_left heq)))
      · rename_i hancestor
        rw [if_neg hroot, if_neg hancestor, List.length_dropLast] at hlength
        omega
  · exact h (List.singleton_inj.mp (List.append_cancel_left heq))

/-- A path that leads into the working directory has come through it. -/
theorem isInside_of_goTo {l : Location} {name : Text}
    (h : FileTree.isInside (FileTree.goTo l name) = true) : FileTree.isInside l = true := by
  cases l with
  | nil => rfl
  | cons first rest =>
    unfold FileTree.goTo at h
    split at h
    · unfold FileTree.above at h
      split at h
      · rename_i hroot
        rw [hroot] at h
        cases h
      · split at h
        · exact h
        · rename_i hancestor
          cases rest with
          | nil =>
            simp only [FileTree.isAncestor, List.all_cons, List.all_nil, Bool.and_true,
              Bool.or_eq_true, decide_eq_true_eq, not_or] at hancestor
            simp [FileTree.isInside, hancestor]
          | cons next rest => exact h
    · exact h

theorem isInside_append {l : Location} {name : Text} (h : FileTree.isInside l = true)
    (hroot : name ≠ FileTree.rootName) (hup : name ≠ FileTree.upName) :
    FileTree.isInside (l ++ [name]) = true := by
  cases l with
  | nil => simp [FileTree.isInside, hroot, hup]
  | cons first rest => exact h

/-- **A file with the same stem is the same file** exactly if it has the same suffix. -/
theorem location_sibling_eq_iff {path : Path} {suffix : Text} (hname : path.name ≠ [])
    (hup : path.stem ++ suffix ≠ FileTree.upName) :
    (path.sibling suffix).location = path.location ↔ path.suffix = suffix := by
  have hsplit : path.stem ++ path.suffix = path.name := stemOf_append_suffixOf _
  constructor
  · intro h
    by_contra hne
    have hother : path.name ≠ path.stem ++ suffix := fun heq =>
      hne (List.append_cancel_left (hsplit.trans heq))
    refine goTo_ne_append (l := path.parent.location) hother ?_
    rw [← location_child _ hup, ← location_eq_goTo hname]
    exact h.symm
  · rintro rfl
    rw [sibling, hsplit, child_parent_name hname]

end Path

namespace Convert

/-! ## What is stored -/

section Storing

variable {options : ConvertOptions} {tree after : FileTree}

/-- **What is stored** is the document and, where it is asked for, its code; other files stay as
they are. -/
theorem of_returns_store_others {emit : Option Format} {output : Path} {document : Document}
    {u : Unit} (h : Returns (store emit output document) tree u after) :
    tree.Grows after ∧ ∀ l, l ≠ output.location →
      (∀ format side, emit = some format → output.withSuffix? format.suffix = some side →
        l ≠ side.location) →
      after.fileAt? l = tree.fileAt? l := by
  unfold store at h
  obtain ⟨_, made, hmake, h⟩ := returns_bind_iff.mp h
  obtain ⟨hgrows, hfiles⟩ := of_returns_makeDirs hmake
  have hmade : ∀ l, made.fileAt? l = tree.fileAt? l := fun l => by
    rw [FileTree.fileAt?, hfiles, FileTree.fileAt?]
  cases emit with
  | none =>
    obtain ⟨_, _, hdocument, h⟩ := returns_bind_iff.mp h
    obtain ⟨rfl, rfl⟩ := returns_pure_iff.mp hdocument
    obtain ⟨-, hwrite⟩ := returns_writeJson_iff.mp h
    refine ⟨hgrows.trans (FileTree.grows_write hwrite), fun l hl _ => ?_⟩
    rw [FileTree.fileAt?_write hwrite, if_neg hl, hmade]
  | some format =>
    obtain ⟨written, middle, hcode, h⟩ := returns_bind_iff.mp h
    obtain ⟨side, code, hside, -, hbeside⟩ := of_returns_writeCode hcode
    obtain ⟨-, hwrite⟩ := returns_writeJson_iff.mp h
    refine ⟨hgrows.trans ((FileTree.grows_write hbeside).trans (FileTree.grows_write hwrite)),
      fun l hl hapart => ?_⟩
    rw [FileTree.fileAt?_write hwrite, if_neg hl, FileTree.fileAt?_write hbeside,
      if_neg (hapart format side rfl hside), hmade]

/-- A document that is stored is written as it is handed on with its code. -/
theorem of_returns_store_read {emit : Option Format} {output : Path} {document : Document} {u : Unit}
    (h : Returns (store emit output document) tree u after) :
    Json.isWritable (.obj (handedOn emit document)) = true ∧
      after.read output = .ok (Json.pretty (.obj (handedOn emit document))) := by
  unfold store at h
  obtain ⟨_, made, -, h⟩ := returns_bind_iff.mp h
  cases emit with
  | none =>
    obtain ⟨_, _, hdocument, h⟩ := returns_bind_iff.mp h
    obtain ⟨rfl, rfl⟩ := returns_pure_iff.mp hdocument
    obtain ⟨hwritable, hwrite⟩ := returns_writeJson_iff.mp h
    exact ⟨hwritable, FileTree.read_write hwrite⟩
  | some format =>
    obtain ⟨written, middle, hcode, h⟩ := returns_bind_iff.mp h
    obtain ⟨side, code, -, hemit, -⟩ := of_returns_writeCode hcode
    obtain ⟨hwritable, hwrite⟩ := returns_writeJson_iff.mp h
    rw [handedOn, hemit]
    exact ⟨hwritable, FileTree.read_write hwrite⟩

theorem fits_handedOn {document : Document} (h : document.Fits) {emit : Option Format}
    (hemit : ∀ format, emit = some format → ∃ code, (document.emit format).1 = .ok code) :
    (handedOn emit document).Fits := by
  cases emit with
  | none => exact h
  | some format =>
    obtain ⟨code, hcode⟩ := hemit format rfl
    exact Document.fits_emit h (Prod.ext hcode rfl)

/-- A numbering that is not kept in a file is a new one, and is kept nowhere. -/
theorem of_returns_loadNumbering_of_none {m : Numbering} (hids : options.ids = .none)
    (h : Returns (loadNumbering options) tree m after) : m = Numbering.empty := by
  have hempty : loadNumbering options = pure Numbering.empty := by
    unfold loadNumbering
    rw [hids]
    cases options.clearIds <;> rfl
  rw [hempty] at h
  exact (returns_pure_iff.mp h).1

theorem of_returns_saveNumbering_of_none {m : Numbering} {u : Unit} (hids : options.ids = .none)
    (h : Returns (saveNumbering options m) tree u after) : after = tree := by
  unfold saveNumbering at h
  rw [hids] at h
  exact (returns_pure_iff.mp h).2

end Storing

/-! ## Runs that are told one file -/

/-- A run of the program on one sketch that is told no file but the sketch and ends well. -/
structure LoneRun where
  commandLine : List Text
  arguments : Arguments
  /-- The files before the run. -/
  before : FileTree
  reads : grammar.read commandLine = .ok arguments
  isSingle : (optionsOf arguments).batch = false
  noOutput : (optionsOf arguments).output = none
  noIds : (optionsOf arguments).ids = .none
  endsWell : (run commandLine before).exit = 0

namespace LoneRun

/-- The options of a run. -/
def options (r : LoneRun) : ConvertOptions := optionsOf r.arguments

/-- The files after a run. -/
def after (r : LoneRun) : FileTree := (run r.commandLine r.before).tree

/-- The suffixes of the files that are written. -/
def suffixes (r : LoneRun) : List Text :=
  ".json" :: (r.options.emit.map Format.suffix).toList

/-- The path of the file with a suffix beside the sketch. -/
def beside (r : LoneRun) (suffix : Text) : Path := r.options.input.sibling suffix

/-- What has become of the sketch and what has been made of its text. -/
structure Leaves (r : LoneRun) (text : Text) (built : Document) : Prop where
  read_input : r.before.read r.options.input = .ok text
  /-- The document is made of the text. -/
  made : ∃ diagram later,
    Convert.document r.options Numbering.empty r.options.input.stem (Sketch.unifyLineEnds text) =
      .ok (diagram, built, later)
  /-- It is in its file, with the warning that its code may leave in it. -/
  document : Holds r.after (r.beside ".json") (.obj (handedOn r.options.emit built)) ∧
    r.after.read (r.beside ".json") = .ok (Json.pretty (.obj (handedOn r.options.emit built)))
  /-- Its code is in a file too, if it is asked for. -/
  code : ∀ format, r.options.emit = some format → ∃ code,
    (built.emit format).1 = .ok code ∧ r.after.read (r.beside format.suffix) = .ok code
  /-- A file that is written is the sketch exactly if it has the suffix of the sketch. -/
  same_iff : ∀ suffix ∈ r.suffixes,
    (r.beside suffix).location = r.options.input.location ↔ r.options.input.suffix = suffix
  /-- Otherwise the sketch has the text that it had. -/
  kept : r.options.input.suffix ∉ r.suffixes → r.after.read r.options.input = .ok text
  /-- Its text is replaced by the document if it has the suffix of that one, -/
  replaced : r.options.input.suffix = ".json" →
    r.after.read r.options.input = .ok (Json.pretty (.obj (handedOn r.options.emit built)))
  /-- and by the code if it has the suffix of the code. -/
  replaced_code : ∀ format, r.options.emit = some format →
    r.options.input.suffix = format.suffix → ∃ code,
      (built.emit format).1 = .ok code ∧ r.after.read r.options.input = .ok code
  /-- No other file is changed. -/
  others : ∀ l, (∀ suffix ∈ r.suffixes, l ≠ (r.beside suffix).location) →
    r.after.fileAt? l = r.before.fileAt? l
  /-- Nor is any file outside the working directory, if the sketch is in there. -/
  outside : FileTree.isInside r.options.input.location = true → ∀ l,
    FileTree.isInside l = false → r.after.fileAt? l = r.before.fileAt? l

variable (r : LoneRun)

theorem mem_suffixes {suffix : Text} (h : suffix ∈ r.suffixes) : suffix ∈ outputSuffixes := by
  rcases List.mem_cons.mp h with rfl | h
  · decide
  · obtain ⟨format, -, rfl⟩ := Option.map_eq_some_iff.mp (Option.mem_toList.mp h)
    exact suffix_mem_outputSuffixes format

/-- The sketch has a name, since there is a document beside it. -/
theorem name_ne_nil_of_outputPath? {output : Path} (h : r.options.outputPath? = some output) :
    r.options.input.name ≠ [] ∧ r.beside ".json" = output := by
  have hnone : r.options.output = none := r.noOutput
  rw [ConvertOptions.outputPath?, hnone] at h
  exact Path.withSuffix?_eq_some_iff.mp h

theorem withSuffix?_beside (hname : r.options.input.name ≠ []) (suffix : Text) :
    (r.beside ".json").withSuffix? suffix = some (r.beside suffix) :=
  withSuffix?_document (Path.stemOf_ne_nil hname) suffix

theorem same_beside_iff (hname : r.options.input.name ≠ []) {suffix : Text}
    (h : suffix ∈ r.suffixes) :
    (r.beside suffix).location = r.options.input.location ↔ r.options.input.suffix = suffix :=
  Path.location_sibling_eq_iff hname (output_ne (r.mem_suffixes h) _).1

/-- Files beside the sketch with different suffixes are different. -/
theorem location_beside_inj {suffix suffix' : Text} (h : suffix ∈ outputSuffixes)
    (h' : suffix' ∈ outputSuffixes)
    (heq : (r.beside suffix).location = (r.beside suffix').location) : suffix = suffix' := by
  rw [beside, beside, Path.sibling, Path.sibling, Path.location_child _ (output_ne h _).1,
    Path.location_child _ (output_ne h' _).1] at heq
  exact List.append_cancel_left (List.singleton_inj.mp (List.append_cancel_left heq))

/-- The path of the sketch is the one beside it with its own suffix. -/
theorem beside_suffix (hname : r.options.input.name ≠ []) :
    r.beside r.options.input.suffix = r.options.input := by
  rw [beside, Path.sibling, show r.options.input.stem ++ r.options.input.suffix =
    r.options.input.name from Path.stemOf_append_suffixOf _, Path.child_parent_name hname]

/-- What is written is in the working directory if the sketch is. -/
theorem isInside_beside (hname : r.options.input.name ≠ [])
    (hinside : FileTree.isInside r.options.input.location = true) {suffix : Text}
    (h : suffix ∈ r.suffixes) : FileTree.isInside (r.beside suffix).location = true := by
  obtain ⟨hup, hroot⟩ := output_ne (r.mem_suffixes h) r.options.input.stem
  rw [Path.location_eq_goTo hname] at hinside
  rw [beside, Path.sibling, Path.location_child _ hup]
  exact Path.isInside_append (Path.isInside_of_goTo hinside) hroot hup

/-- **What a run leaves**: the document and its code, the sketch unless one of them has taken its
place, and every other file as it was. -/
theorem exists_leaves (r : LoneRun) : ∃ text built, r.Leaves text built := by
  obtain ⟨diagram, hsingle⟩ := exists_returns_single r.reads r.isSingle r.endsWell
  change Returns (single r.options) r.before diagram r.after at hsingle
  unfold single at hsingle
  obtain ⟨numbering, loaded, hload, hrest⟩ := returns_bind_iff.mp hsingle
  obtain rfl := of_returns_loadNumbering hload
  obtain rfl := of_returns_loadNumbering_of_none r.noIds hload
  obtain ⟨⟨d, later⟩, stored, hfile, hlast⟩ := returns_bind_iff.mp hrest
  obtain ⟨_, _, hsave, hpure⟩ := returns_bind_iff.mp hlast
  obtain ⟨-, hafter⟩ := returns_pure_iff.mp hpure
  obtain rfl : r.after = stored := hafter.trans (of_returns_saveNumbering_of_none r.noIds hsave)
  obtain ⟨text, output, built, hread, houtput, hdocument, hstore⟩ := of_returns_file_store hfile
  obtain ⟨hname, rfl⟩ := r.name_ne_nil_of_outputPath? houtput
  have hcode : ∀ format, r.options.emit = some format → ∃ code,
      (built.emit format).1 = .ok code ∧ r.after.read (r.beside format.suffix) = .ok code := by
    intro format hformat
    rw [hformat] at hstore
    have hapart : (r.beside format.suffix).location ≠ (r.beside ".json").location := fun heq =>
      absurd (r.location_beside_inj (suffix_mem_outputSuffixes format) (by decide) heq)
        (by cases format <;> decide)
    obtain ⟨code, written, hemit, hbeside, -, -⟩ :=
      of_returns_store_emit (r.withSuffix?_beside hname format.suffix) hapart hstore
    exact ⟨code, by rw [hemit], hbeside⟩
  obtain ⟨hwritable, hjson⟩ := of_returns_store_read hstore
  obtain ⟨hgrows, hothers⟩ := of_returns_store_others hstore
  have hfits : (handedOn r.options.emit built).Fits :=
    fits_handedOn (document_eq_ok hdocument).2.2 fun format hformat =>
      (hcode format hformat).imp fun _ => And.left
  have hrest : ∀ l, (∀ suffix ∈ r.suffixes, l ≠ (r.beside suffix).location) →
      r.after.fileAt? l = r.before.fileAt? l := by
    intro l hl
    refine hothers l (hl _ List.mem_cons_self) fun format side hformat hside => ?_
    obtain rfl := Option.some.inj ((r.withSuffix?_beside hname _).symm.trans hside)
    refine hl _ (List.mem_cons_of_mem _ ?_)
    rw [hformat]
    exact List.mem_singleton_self _
  refine ⟨text, built, hread, ⟨d, later, hdocument⟩,
    ⟨holds_of_read_pretty (hfits.mono (by decide)) hwritable hjson, hjson⟩, hcode,
    fun suffix => r.same_beside_iff hname, fun hsuffix => ?_, fun heq => ?_,
    fun format hformat heq => ?_, hrest, fun hinside l hl => hrest l fun suffix hmem heq => ?_⟩
  · refine hgrows.read_eq_ok hread (hrest _ fun suffix hmem heq => ?_)
    exact hsuffix ((r.same_beside_iff hname hmem).mp heq.symm ▸ hmem)
  · rw [← hjson, ← heq, r.beside_suffix hname]
  · rw [← r.beside_suffix hname, heq]
    exact hcode format hformat
  · rw [heq, r.isInside_beside hname hinside hmem] at hl
    cases hl

/-- A run on a sketch whose name looks like that of DOT code; its own code is in another language,
and its layout is unknown. -/
def mermaidRun : LoneRun where
  commandLine := ["a.b/x.dot", "--emit", "mermaid", "--run-commands", "--strict"]
  arguments := ⟨[(.choice ["--emit"] ["dot", "mermaid"], some "mermaid"),
    (.flag ["--run-commands"], none), (.flag ["--strict"], none)], ["a.b/x.dot"]⟩
  before := ⟨[["a.b"]], [(["a.b", "x.dot"], "A -> B\n@C\n=layout(spiral)"), (["a.b", "x"], "y")]⟩
  reads := rfl
  isSingle := by decide +kernel
  noOutput := by decide +kernel
  noIds := by decide +kernel
  endsWell := by decide +kernel

/-- The sketch is kept, since no file with its suffix is written. -/
theorem exists_leaves_of_mermaid :
    mermaidRun.options.input.suffix ∉ mermaidRun.suffixes ∧
      mermaidRun.after.read mermaidRun.options.input = .ok "A -> B\n@C\n=layout(spiral)".toList ∧
      ∃ text built, mermaidRun.Leaves text built :=
  ⟨by decide +kernel, by decide +kernel, exists_leaves mermaidRun⟩

end LoneRun

/-- A sketch that has the suffix of a document is replaced by its document, and one that has the
suffix of its code by that, although the runs end well. -/
theorem run_of_own_suffix :
    let jsonRun := run ["x.json"] ⟨[], [(["x.json"], "A -> B")]⟩
    let dotRun := run ["x.dot", "--emit", "dot"] ⟨[], [(["x.dot"], "A -> B")]⟩
    jsonRun.exit = 0 ∧ jsonRun.tree.fileAt? ["x.json"] ≠ some "A -> B".toList ∧
      dotRun.exit = 0 ∧ dotRun.tree.fileAt? ["x.dot"] ≠ some "A -> B".toList := by
  refine ⟨?_, ?_, ?_, ?_⟩ <;> decide +kernel

end Convert

end GraphSketch
