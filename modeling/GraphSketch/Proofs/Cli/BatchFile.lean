import GraphSketch.Proofs.Cli.Rejected
import GraphSketch.Proofs.Cli.Verdict
import GraphSketch.Proofs.Files.Directory

/-!
# One file of a directory

When a file of a directory is converted, its document goes to a file of the output directory that has
the stem of its name, and its code next to that.  No sketch has such a name, so that the files which
are still to be read stay as they are.

* `Convert.outcome` — what becomes of a file, as its text and the names of its outputs tell.
* `Convert.sent?` — what is written as its document.
* `Convert.converts_batchFile` — that is what the conversion of one file does.
-/

set_option autoImplicit false

namespace GraphSketch

/-! ## Stems -/

namespace Path

theorem suffixOf_append {stem ending : Text} (hstem : stem ≠ []) (hne : ending ≠ [])
    (hdot : '.' ∉ ending) : suffixOf (stem ++ '.' :: ending) = '.' :: ending := by
  have hpos : ∀ c ∈ ending.reverse, (decide (c ≠ '.')) = true := by
    intro c hc
    rw [List.mem_reverse] at hc
    exact decide_eq_true fun h => hdot (h ▸ hc)
  have hback : (stem ++ '.' :: ending).reverse = ending.reverse ++ '.' :: stem.reverse := by
    simp
  rw [suffixOf, hback, List.takeWhile_append_of_pos hpos, List.dropWhile_append_of_pos hpos]
  simp [hstem, hne]

theorem stemOf_append {stem ending : Text} (hstem : stem ≠ []) (hne : ending ≠ [])
    (hdot : '.' ∉ ending) : stemOf (stem ++ '.' :: ending) = stem := by
  rw [stemOf, suffixOf_append hstem hne hdot, List.length_append, Nat.add_sub_cancel,
    List.take_left]

theorem stemOf_ne_nil {name : Text} (h : name ≠ []) : stemOf name ≠ [] := by
  have hlength : (suffixOf name).length < name.length := by
    have hpos : 0 < name.length := List.length_pos_iff.mpr h
    have hparts := congrArg List.length
      (List.takeWhile_append_dropWhile (p := fun c => decide (c ≠ '.')) (l := name.reverse))
    rw [List.length_append, List.length_reverse] at hparts
    unfold suffixOf
    dsimp only
    split
    · exact hpos
    · rename_i hsome
      simp only [Bool.or_eq_true, List.isEmpty_iff, not_or, ← List.length_pos_iff,
        List.length_drop] at hsome
      rw [List.length_cons, List.length_reverse]
      omega
  rw [stemOf, ne_eq, List.take_eq_nil_iff, not_or]
  exact ⟨by omega, h⟩

end Path

namespace Convert

variable {options : ConvertOptions} {tree after : FileTree} {name stem suffix : Text}

/-! ## Names of outputs -/

/-- The ends of the names of documents and code. -/
def outputSuffixes : List Text := [".json", ".dot", ".mmd"]

theorem suffix_mem_outputSuffixes (format : Format) : format.suffix ∈ outputSuffixes := by
  cases format <;> decide

/-- The name of the document of a file. -/
def documentName (name : Text) : Text := Path.stemOf name ++ ".json"

/-- The names of the files that are written for a file. -/
def outputNames (options : ConvertOptions) (name : Text) : List Text :=
  documentName name :: (options.emit.map fun format => Path.stemOf name ++ format.suffix).toList

theorem exists_of_mem_outputNames {output : Text} (h : output ∈ outputNames options name) :
    ∃ suffix ∈ outputSuffixes, output = Path.stemOf name ++ suffix := by
  rcases List.mem_cons.mp h with rfl | h
  · exact ⟨".json", by decide, rfl⟩
  · obtain ⟨format, -, rfl⟩ := Option.map_eq_some_iff.mp (Option.mem_toList.mp h)
    exact ⟨_, suffix_mem_outputSuffixes format, rfl⟩

theorem isSketchName_output (h : suffix ∈ outputSuffixes) (stem : Text) :
    isSketchName (stem ++ suffix) = false := by
  have hends : ∀ ending : Text, (∀ suffix ∈ outputSuffixes, ¬ (ending <:+ suffix ∨ suffix <:+ ending)) →
      List.isSuffixOf ending (stem ++ suffix) = false := by
    intro ending hnot
    rw [Bool.eq_false_iff, ne_eq, List.isSuffixOf_iff_suffix]
    exact fun hsuffix => hnot suffix h
      (List.suffix_or_suffix_of_suffix hsuffix (List.suffix_append stem suffix))
  rw [isSketchName, hends _ (by decide), hends _ (by decide)]
  rfl

theorem output_ne (h : suffix ∈ outputSuffixes) (stem : Text) :
    stem ++ suffix ≠ FileTree.upName ∧ stem ++ suffix ≠ FileTree.rootName := by
  have hlength : ∀ suffix ∈ outputSuffixes, 2 < suffix.length := by decide
  have hlong := hlength suffix h
  constructor
  all_goals
    intro heq
    have hsame := congrArg List.length heq
    rw [List.length_append] at hsame
    simp only [FileTree.upName, FileTree.rootName, List.length_cons, List.length_nil] at hsame
    omega

theorem output_inj {stem' suffix' : Text} (h : suffix ∈ outputSuffixes)
    (h' : suffix' ∈ outputSuffixes) (heq : stem ++ suffix = stem' ++ suffix') :
    stem = stem' ∧ suffix = suffix' := by
  have hdistinct : ∀ s ∈ outputSuffixes, ∀ s' ∈ outputSuffixes, s <:+ s' ∨ s' <:+ s → s = s' := by
    decide
  obtain rfl : suffix = suffix' := hdistinct _ h _ h' (List.suffix_or_suffix_of_suffix
    (List.suffix_append stem suffix) (heq ▸ List.suffix_append stem' suffix'))
  exact ⟨List.append_cancel_right heq, rfl⟩

theorem isSketchName_ne_up (h : isSketchName name = true) : name ≠ FileTree.upName := by
  rintro rfl
  revert h
  decide

theorem isSketchName_ne_nil (h : isSketchName name = true) : name ≠ [] := by
  rintro rfl
  revert h
  decide

theorem withSuffix?_document {dir : Path} (hstem : stem ≠ []) (suffix : Text) :
    (dir.child (stem ++ ".json")).withSuffix? suffix = some (dir.child (stem ++ suffix)) := by
  have hname : (stem ++ (".json" : Text)).isEmpty = false := by
    rw [List.isEmpty_eq_false_iff]
    exact List.append_ne_nil_of_left_ne_nil hstem _
  rw [Path.withSuffix?, Path.stem, Path.name_child, Path.parent_child, hname]
  have hsame : Path.stemOf (stem ++ '.' :: ("json" : Text)) = stem :=
    Path.stemOf_append hstem (by decide) (by decide)
  exact congrArg (fun stem => some (dir.child (stem ++ suffix))) hsame

/-! ## What becomes of a file -/

/-- Whether a name can be written in the directory of the documents, if there was nothing in it. -/
def admits (options : ConvertOptions) (name : Text) : Bool :=
  ((batchOutput options).child name).isUsable &&
    !(batchOutput options).passes ((batchOutput options).location ++ [name])

/-- Whether all files that are written for a file can be written. -/
def fits (options : ConvertOptions) (name : Text) : Bool :=
  (outputNames options name).all (admits options)

/-- What can be read under a name of the directory that is converted. -/
def source (options : ConvertOptions) (tree : FileTree) (name : Text) : Option Text :=
  (tree.read (options.input.child name)).toOption

/-- What becomes of the file with a name, if it can be read. -/
def outcome (options : ConvertOptions) (name : Text) : Option Text → Report
  | none => .failed []
  | some raw =>
    match verdict options.strict options.runCommands raw with
    | .converted counts => if fits options name then .converted counts else .failed []
    | report => report

/-- The document that a file is made into, unless it is blank or cannot be made into one. -/
def made? (options : ConvertOptions) (name : Text) (raw : Text) : Option (Diagram × Document) :=
  if Text.isBlankText (Sketch.unifyLineEnds raw) then none
  else
    (document options Numbering.empty (Path.stemOf name) (Sketch.unifyLineEnds raw)).toOption.map
      fun (diagram, built, _) => (diagram, built)

/-- A document as it is written, with the warning that its code may leave in it. -/
def handedOn (emit : Option Format) (built : Document) : Document :=
  match emit with
  | none => built
  | some format => (built.emit format).2

/-- What is written for a document, if anything: it breaks off at an integer that cannot be written,
if no code is to be written before it. -/
def sentFor? (options : ConvertOptions) (name : Text) (built : Document) : Option Text :=
  if fits options name && (options.emit.isNone || Json.isWritable (.obj built)) then
    some (Json.beforeMark (.obj (handedOn options.emit built)))
  else none

/-- What is written as the document of a file, if anything. -/
def sent? (options : ConvertOptions) (name : Text) (content : Option Text) : Option Text :=
  (content.bind (made? options name)).bind fun (_, built) => sentFor? options name built

/-- A report without what is said of a failure. -/
def Report.plain : Report → Report
  | .failed _ => .failed []
  | report => report

/-- The report on a file. -/
def reportOf : Except ConvertFault Report → Report
  | .ok report => report
  | .error fault => .failed fault.message

/-! ## Trees in which a batch is run -/

/-- The directories of a batch are there, and the names of its outputs are free. -/
structure Ready (options : ConvertOptions) (tree : FileTree) : Prop where
  input : tree.IsDir options.input
  output : tree.IsDir (batchOutput options)
  takes : ∀ suffix ∈ outputSuffixes, ∀ stem : Text,
    tree.takes ((batchOutput options).child (stem ++ suffix)) = admits options (stem ++ suffix)

/-- The location of an output. -/
def outputLocation (options : ConvertOptions) (name : Text) : Location :=
  (batchOutput options).location ++ [name]

/-- Nothing has changed but the files that are written for a file. -/
structure Leaves (options : ConvertOptions) (name : Text) (sent : Option Text)
    (tree after : FileTree) : Prop where
  dirs : after.dirs = tree.dirs
  document : after.fileAt? (outputLocation options (documentName name)) =
    sent.or (tree.fileAt? (outputLocation options (documentName name)))
  others : ∀ l, (∀ output ∈ outputNames options name, l ≠ outputLocation options output) →
    after.fileAt? l = tree.fileAt? l

theorem Leaves.refl (options : ConvertOptions) (name : Text) (tree : FileTree) :
    Leaves options name none tree tree := ⟨rfl, rfl, fun _ _ => rfl⟩

/-! ## Steps that return or fail -/

/-- A computation returns exactly under a condition, and leaves the files `after` in either case. -/
structure Comes {α : Type} (x : Shell α) (tree : FileTree) (good : Bool) (a : α)
    (after : FileTree) : Prop where
  returns : good = true → Returns x tree a after
  fails : good = false → ∃ fault, Fails x tree fault after

section Comes

variable {α β : Type} {good : Bool}

theorem Returns.bind_comes {x : Shell α} {f : α → Shell β} {a : α} {b : β} {middle : FileTree}
    (h : Returns x tree a middle) (hf : Comes (f a) middle good b after) :
    Comes (x >>= f) tree good b after :=
  ⟨fun hgood => returns_bind_iff.mpr ⟨a, middle, h, hf.returns hgood⟩,
    fun hbad => (hf.fails hbad).imp fun _ => h.bind_fails⟩

/-- Of two computations one after the other the second is not begun if the first one fails. -/
theorem Comes.bind {good' : Bool} {x : Shell α} {f : α → Shell β} {a : α} {b : β}
    {middle : FileTree} (h : Comes x tree good a middle) (hf : Comes (f a) middle good' b after) :
    Comes (x >>= f) tree (good && good') b (if good then after else middle) := by
  cases good with
  | true => exact (h.returns rfl).bind_comes hf
  | false => exact ⟨nofun, fun _ => (h.fails rfl).imp fun _ => Fails.bind⟩

theorem Returns.comes {x : Shell α} {a : α} (h : Returns x tree a after) :
    Comes x tree true a after := ⟨fun _ => h, nofun⟩

theorem Fails.comes {x : Shell α} {fault : ConvertFault} (h : Fails x tree fault after) (a : α) :
    Comes x tree false a after := ⟨nofun, fun _ => ⟨fault, h⟩⟩

theorem comes_writeText (tree : FileTree) (path : Path) (t : Text) :
    Comes (writeText path t) tree (tree.takes path) ()
      (if tree.takes path then { tree with files := tree.files.put path.location t } else tree) := by
  cases htakes : tree.takes path with
  | true => exact ⟨fun _ => returns_writeText_iff.mpr (FileTree.write_of_takes htakes t), nofun⟩
  | false =>
    obtain ⟨fault, hwrite⟩ := FileTree.write_of_not_takes htakes t
    exact (fails_change hwrite).comes ()

/-- What comes before an integer that cannot be written is written in any case. -/
theorem comes_writeJson (tree : FileTree) (path : Path) (v : Json) :
    Comes (writeJson path v) tree (tree.takes path && v.isWritable) ()
      (if tree.takes path then
        { tree with files := tree.files.put path.location (Json.beforeMark v) }
      else tree) := by
  have hwrite := comes_writeText tree path (Json.beforeMark v)
  cases htakes : tree.takes path with
  | false =>
    rw [htakes] at hwrite
    obtain ⟨fault, hfails⟩ := hwrite.fails rfl
    exact Fails.comes hfails.bind ()
  | true =>
    rw [htakes] at hwrite
    refine (hwrite.returns rfl).bind_comes ?_
    cases v.isWritable with
    | true => exact (returns_pure_iff.mpr ⟨rfl, rfl⟩ : Returns (pure ()) _ () _).comes
    | false => exact (fails_throw _).comes ()

end Comes

/-! ## Storing a document -/

theorem location_output (h : suffix ∈ outputSuffixes) (stem : Text) :
    ((batchOutput options).child (stem ++ suffix)).location =
      outputLocation options (stem ++ suffix) :=
  Path.location_child _ (output_ne h stem).1

theorem outputLocation_inj {output output' : Text}
    (h : outputLocation options output = outputLocation options output') : output = output' :=
  List.singleton_inj.mp (List.append_cancel_left h)

/-- The tree with a text in an output, if its name can be written. -/
def putOutput (options : ConvertOptions) (tree : FileTree) (output t : Text) : FileTree :=
  if admits options output then
    { tree with files := tree.files.put (outputLocation options output) t }
  else tree

theorem dirs_putOutput (tree : FileTree) (output t : Text) :
    (putOutput options tree output t).dirs = tree.dirs := by
  unfold putOutput
  split <;> rfl

theorem fileAt?_putOutput (tree : FileTree) (output t : Text) (l : Location) :
    (putOutput options tree output t).fileAt? l =
      if admits options output = true ∧ l = outputLocation options output then some t
      else tree.fileAt? l := by
  unfold putOutput
  cases admits options output with
  | false => rw [if_neg (by simp), if_neg (by simp)]
  | true =>
    rw [if_pos rfl, FileTree.fileAt?, OrderedMap.get?_put]
    simp only [true_and, eq_comm, FileTree.fileAt?]

theorem Ready.of_dirs_eq (h : Ready options tree) (hdirs : after.dirs = tree.dirs) :
    Ready options after :=
  ⟨h.input.of_dirs_eq hdirs, h.output.of_dirs_eq hdirs, fun suffix hsuffix stem =>
    (FileTree.takes_of_dirs_eq hdirs).trans (h.takes suffix hsuffix stem)⟩

theorem Ready.comes_writeText (h : Ready options tree) (hsuffix : suffix ∈ outputSuffixes)
    (stem t : Text) : Comes (writeText ((batchOutput options).child (stem ++ suffix)) t) tree
      (admits options (stem ++ suffix)) () (putOutput options tree (stem ++ suffix) t) := by
  have hwrite := Convert.comes_writeText tree ((batchOutput options).child (stem ++ suffix)) t
  rwa [h.takes suffix hsuffix, location_output hsuffix] at hwrite

theorem Ready.comes_writeJson (h : Ready options tree) (hsuffix : suffix ∈ outputSuffixes)
    (stem : Text) (v : Json) : Comes (writeJson ((batchOutput options).child (stem ++ suffix)) v) tree
      (admits options (stem ++ suffix) && v.isWritable) ()
      (putOutput options tree (stem ++ suffix) (Json.beforeMark v)) := by
  have hwrite := Convert.comes_writeJson tree ((batchOutput options).child (stem ++ suffix)) v
  rwa [h.takes suffix hsuffix, location_output hsuffix] at hwrite

variable {numbering later : Numbering} {title text : Text} {diagram : Diagram} {built : Document}

/-- The directory of a document is there when the document is stored. -/
theorem Ready.returns_makeDirs (h : Ready options tree) (output : Text) :
    Returns (change fun tree => tree.makeDirs ((batchOutput options).child output).parent) tree ()
      tree := by
  rw [returns_change_iff, Path.parent_child]
  exact FileTree.makeDirs_of_isDir h.output

/-- Code is written next to a document if all integers of the document can be written. -/
theorem Ready.comes_writeCode (h : Ready options tree) (hname : name ≠ [])
    {format : Format} {code : Text} {written : Document}
    (hemit : built.emit format = (.ok code, written)) :
    Comes (writeCode format ((batchOutput options).child (documentName name)) built) tree
      (Json.isWritable (.obj built) && admits options (Path.stemOf name ++ format.suffix)) written
      (if Json.isWritable (.obj built) then
        putOutput options tree (Path.stemOf name ++ format.suffix) code
      else tree) := by
  have hside : Returns (withSuffix ((batchOutput options).child (documentName name)) format.suffix)
      tree ((batchOutput options).child (Path.stemOf name ++ format.suffix)) tree :=
    returns_withSuffix_iff.mpr
      ⟨withSuffix?_document (Path.stemOf_ne_nil hname) format.suffix, rfl⟩
  refine hside.bind_comes ?_
  have hwrite := h.comes_writeText (suffix_mem_outputSuffixes format) (Path.stemOf name) code
  cases Json.isWritable (.obj built) with
  | false => exact (fails_throw ConvertFault.unwritable).bind.comes written
  | true =>
    simp only [Bool.not_true, Bool.false_eq_true, if_false, hemit, if_true, Bool.true_and]
    have hboth := hwrite.bind (f := fun _ => pure written)
      (returns_pure_iff.mpr ⟨rfl, rfl⟩ : Returns (pure written) _ written _).comes
    rwa [Bool.and_true, ite_self] at hboth

theorem fits_of_emit_none (h : options.emit = none) :
    fits options name = admits options (documentName name) := by
  simp only [fits, outputNames, h, Option.map_none, Option.toList_none, List.all_cons,
    List.all_nil, Bool.and_true]

theorem fits_of_emit_some {format : Format} (h : options.emit = some format) :
    fits options name =
      (admits options (documentName name) && admits options (Path.stemOf name ++ format.suffix)) := by
  simp only [fits, outputNames, h, Option.map_some, Option.toList_some, List.all_cons,
    List.all_nil, Bool.and_true]

theorem leaves_putOutput_code {format : Format} (hemit : options.emit = some format)
    (tree : FileTree) (code : Text) :
    Leaves options name none tree
      (putOutput options tree (Path.stemOf name ++ format.suffix) code) := by
  have hapart : outputLocation options (documentName name) ≠
      outputLocation options (Path.stemOf name ++ format.suffix) := by
    intro hsame
    have hsuffix := (output_inj (by decide) (suffix_mem_outputSuffixes format)
      (outputLocation_inj hsame)).2
    revert hsuffix
    cases format <;> decide
  have hmem : Path.stemOf name ++ format.suffix ∈ outputNames options name := by
    rw [outputNames, hemit]
    exact List.mem_cons_of_mem _ List.mem_cons_self
  refine ⟨dirs_putOutput _ _ _, ?_, fun l hl => ?_⟩
  · rw [fileAt?_putOutput, if_neg fun hsame => hapart hsame.2, Option.none_or]
  · rw [fileAt?_putOutput, if_neg fun hsame => hl _ hmem hsame.2]

theorem Leaves.putOutput_document {middle : FileTree} (h : Leaves options name none tree middle)
    (t : Text) :
    Leaves options name (if admits options (documentName name) then some t else none) tree
      (putOutput options middle (documentName name) t) := by
  refine ⟨(dirs_putOutput _ _ _).trans h.dirs, ?_, fun l hl => ?_⟩
  · rw [fileAt?_putOutput, h.document]
    cases admits options (documentName name) <;> simp
  · rw [fileAt?_putOutput, if_neg fun hsame => hl _ List.mem_cons_self hsame.2, h.others l hl]

/-- **A document is stored** if its files can be written, and all its integers can. -/
theorem Ready.exists_comes_store (h : Ready options tree) (hname : name ≠ [])
    (hbuilt : document options numbering title text = .ok (diagram, built, later)) :
    ∃ after, Leaves options name (sentFor? options name built) tree after ∧
      Comes (store options.emit ((batchOutput options).child (documentName name)) built) tree
        (fits options name && Json.isWritable (.obj built)) () after := by
  have hjson : (".json" : Text) ∈ outputSuffixes := by decide
  have hmake := h.returns_makeDirs (documentName name)
  unfold store
  cases hemit : options.emit with
  | none =>
    have hwrite := h.comes_writeJson hjson (Path.stemOf name) (.obj built)
    rw [← documentName, ← fits_of_emit_none hemit] at hwrite
    have hsent : sentFor? options name built =
        if admits options (documentName name) then some (Json.beforeMark (.obj built)) else none := by
      simp only [sentFor?, fits_of_emit_none hemit, hemit, Option.isNone_none, Bool.true_or,
        Bool.and_true, handedOn]
    rw [hsent]
    exact ⟨_, (Leaves.refl options name tree).putOutput_document _, hmake.bind_comes hwrite⟩
  | some format =>
    obtain ⟨code, written, hcode, hwritable⟩ := exists_emit_document hbuilt format
    have hside := h.comes_writeCode hname hcode
    set middle := if Json.isWritable (.obj built) then
      putOutput options tree (Path.stemOf name ++ format.suffix) code else tree with hmiddle
    have hleaves : Leaves options name none tree middle := by
      rw [hmiddle]
      split
      · exact leaves_putOutput_code hemit tree code
      · exact Leaves.refl options name tree
    have hdocument := (h.of_dirs_eq hleaves.dirs).comes_writeJson hjson (Path.stemOf name)
      (.obj written)
    rw [← documentName, hwritable] at hdocument
    have hstore := hside.bind (f := fun document => writeJson _ (.obj document)) hdocument
    have hsent : sentFor? options name built =
        if Json.isWritable (.obj built) && admits options (Path.stemOf name ++ format.suffix) then
          if admits options (documentName name) then some (Json.beforeMark (.obj written)) else none
        else none := by
      simp only [sentFor?, fits_of_emit_some hemit, hemit, Option.isNone_some, Bool.false_or,
        handedOn, hcode]
      cases Json.isWritable (.obj built) <;>
        cases admits options (Path.stemOf name ++ format.suffix) <;> simp
    have hgood : (fits options name && Json.isWritable (.obj built)) =
        ((Json.isWritable (.obj built) && admits options (Path.stemOf name ++ format.suffix)) &&
          (admits options (documentName name) && Json.isWritable (.obj built))) := by
      rw [fits_of_emit_some hemit]
      cases Json.isWritable (.obj built) <;> cases admits options (documentName name) <;> simp
    rw [hsent, hgood]
    refine ⟨_, ?_, hmake.bind_comes hstore⟩
    split
    · exact hleaves.putOutput_document _
    · exact hleaves

/-! ## Converting a file -/

/-- A file that can be read and is not blank is converted if it has a document which is stored. -/
theorem Ready.exists_comes_file (h : Ready options tree) (hname : name ≠ []) {raw : Text}
    (hread : tree.read (options.input.child name) = .ok raw)
    (hbuilt : document options Numbering.empty (Path.stemOf name) (Sketch.unifyLineEnds raw) =
      .ok (diagram, built, later)) :
    ∃ after, Leaves options name (sentFor? options name built) tree after ∧
      Comes (file options Numbering.empty (options.input.child name)
        (some ((batchOutput options).child (documentName name)))) tree
        (fits options name && Json.isWritable (.obj built)) (diagram, later) after := by
  obtain ⟨after, hleaves, hstore⟩ := h.exists_comes_store hname hbuilt
  refine ⟨after, hleaves, ?_⟩
  have htext := returns_readText_iff.mpr ⟨⟨raw, hread, rfl⟩, rfl⟩
  have hstem : (options.input.child name).stem = Path.stemOf name := by
    rw [Path.stem, Path.name_child]
  refine htext.bind_comes ((returns_pure_iff.mpr ⟨rfl, rfl⟩).bind_comes ?_)
  rw [hstem, hbuilt]
  have hboth := hstore.bind (f := fun _ => pure (diagram, later))
    (returns_pure_iff.mpr ⟨rfl, rfl⟩ : Returns (pure (diagram, later)) _ (diagram, later) _).comes
  rwa [Bool.and_true, ite_self] at hboth

theorem fails_file_child {raw : Text} {fault : ConvertFault}
    (hread : tree.read (options.input.child name) = .ok raw)
    (hbuilt : document options Numbering.empty (Path.stemOf name) (Sketch.unifyLineEnds raw) =
      .error fault) :
    Fails (file options Numbering.empty (options.input.child name)
      (some ((batchOutput options).child (documentName name)))) tree fault tree := by
  have hstem : (options.input.child name).stem = Path.stemOf name := by
    rw [Path.stem, Path.name_child]
  refine (returns_readText_iff.mpr ⟨⟨raw, hread, rfl⟩, rfl⟩).bind_fails
    ((returns_pure_iff.mpr ⟨rfl, rfl⟩).bind_fails ?_)
  rw [hstem, hbuilt]
  exact fails_throw fault

/-- A file that is not blank is converted, and what its diagram holds is reported. -/
theorem run_batchFile {raw : Text} (hread : tree.read (options.input.child name) = .ok raw)
    (hblank : Text.isBlankText (Sketch.unifyLineEnds raw) = false) :
    (batchFile options (batchOutput options) name).run.run tree =
      (file options Numbering.empty (options.input.child name)
        (some ((batchOutput options).child (documentName name))) >>= fun r =>
          pure (.converted (Counts.ofDiagram r.1)) : Shell Report).run.run tree := by
  have htext := returns_readText_iff.mpr ⟨⟨raw, hread, rfl⟩, rfl⟩
  have hstem : (options.input.child name).stem = Path.stemOf name := by
    rw [Path.stem, Path.name_child]
  rw [batchFile, run_bind, htext]
  dsimp only
  rw [hblank, hstem]
  rfl

theorem outcome_of_document {raw : Text}
    (hblank : Text.isBlankText (Sketch.unifyLineEnds raw) = false) :
    outcome options name (some raw) =
      match document options Numbering.empty (Path.stemOf name) (Sketch.unifyLineEnds raw) with
      | .error _ => .failed []
      | .ok (diagram, built, _) =>
        if fits options name && Json.isWritable (.obj built) then
          .converted (Counts.ofDiagram diagram)
        else .failed [] := by
  rw [outcome, verdict_of_document hblank (Path.stemOf name)]
  rcases document options Numbering.empty (Path.stemOf name) (Sketch.unifyLineEnds raw) with
    fault | ⟨diagram, built, later⟩
  · rfl
  · dsimp only
    cases Json.isWritable (.obj built) <;> cases fits options name <;> rfl

/-- **What the conversion of one file does** is told by its text and the names of its outputs, as long
as the directories are as they were. -/
theorem Ready.converts_batchFile (h : Ready options tree) (hname : isSketchName name = true) :
    ∃ result after, (batchFile options (batchOutput options) name).run.run tree = (result, after) ∧
      (reportOf result).plain = outcome options name (source options tree name) ∧
      Leaves options name (sent? options name (source options tree name)) tree after := by
  cases hread : tree.read (options.input.child name) with
  | error cause =>
    have hsource : source options tree name = none := by rw [source, hread]; rfl
    rw [hsource]
    exact ⟨_, tree, (fails_readText hread).bind, rfl, Leaves.refl options name tree⟩
  | ok raw =>
    have hsource : source options tree name = some raw := by rw [source, hread]; rfl
    rw [hsource]
    cases hblank : Text.isBlankText (Sketch.unifyLineEnds raw) with
    | true =>
      have hsent : sent? options name (some raw) = none := by
        simp only [sent?, Option.bind_some, made?, hblank, if_true, Option.bind_none]
      refine ⟨.ok .blank, tree, returns_bind_iff.mpr
        ⟨_, _, returns_readText_iff.mpr ⟨⟨raw, hread, rfl⟩, rfl⟩, ?_⟩, ?_, ?_⟩
      · rw [hblank]
        exact returns_pure_iff.mpr ⟨rfl, rfl⟩
      · rw [outcome, verdict_of_blank hblank]
        rfl
      · rw [hsent]
        exact Leaves.refl options name tree
    | false =>
      rw [run_batchFile hread hblank, outcome_of_document hblank]
      rcases hbuilt : document options Numbering.empty (Path.stemOf name)
        (Sketch.unifyLineEnds raw) with fault | ⟨diagram, built, later⟩
      · have hsent : sent? options name (some raw) = none := by
          simp only [sent?, Option.bind_some, made?, hblank, Bool.false_eq_true, if_false, hbuilt,
            Except.toOption, Option.map_none, Option.bind_none]
        rw [hsent]
        exact ⟨_, tree, (fails_file_child hread hbuilt).bind, rfl, Leaves.refl options name tree⟩
      · have hsent : sent? options name (some raw) = sentFor? options name built := by
          simp only [sent?, Option.bind_some, made?, hblank, Bool.false_eq_true, if_false, hbuilt,
            Except.toOption, Option.map_some]
        obtain ⟨after, hleaves, hfile⟩ :=
          h.exists_comes_file (isSketchName_ne_nil hname) hread hbuilt
        have hconvert := hfile.bind
          (f := fun r => pure (Report.converted (Counts.ofDiagram r.1)))
          (returns_pure_iff.mpr ⟨rfl, rfl⟩ :
            Returns (pure (Report.converted (Counts.ofDiagram diagram))) _ _ _).comes
        rw [Bool.and_true, ite_self] at hconvert
        rw [hsent]
        dsimp only
        cases hgood : fits options name && Json.isWritable (.obj built) with
        | true => exact ⟨_, after, hconvert.returns hgood, rfl, hleaves⟩
        | false =>
          obtain ⟨fault, hfails⟩ := hconvert.fails hgood
          exact ⟨_, after, hfails, rfl, hleaves⟩

end Convert

end GraphSketch
