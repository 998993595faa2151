import GraphSketch.Proofs.Cli.Convert

/-!
# Sketches that are rejected

A conversion reads its numbering and its sketch, makes the document, and only then begins to
write. So if anything is wrong with the numbering, with the sketch or with its commands, all files
are as they were: the document and the code from the run before, the numbering, and everything
else.

* `Convert.Rejected` — what is wrong: the numbering cannot be loaded, the sketch does not compile,
  which in a strict run is so for every reference to nothing, or a command that is to be carried
  out has a number with too many digits.
* `fails_file` — without a document nothing is written; the steps before it only read
  (`Convert.ReadsOnly`).
* `Convert.run_of_rejected` — how the program ends.

What goes wrong while files are written, such as a directory that cannot be made, is not among
these: then the files may have changed.
-/

set_option autoImplicit false

namespace GraphSketch

/-! ## Paths to files -/

theorem Path.ne_nil_of_mem_ofText {t name : Text} (h : name ∈ (ofText t).names) : name ≠ [] := by
  have hkept := (List.mem_filter.mp h).2
  rw [Bool.and_eq_true, Bool.not_eq_true', List.isEmpty_eq_false_iff] at hkept
  exact hkept.1

theorem FileTree.names_ne_nil_of_isFile {tree : FileTree} {path : Path}
    (h : tree.isFile path = .ok true) : path.names ≠ [] := by
  intro hnone
  have hdir : tree.isDirAt (if path.root.isEmpty then [] else [rootName]) = true := by
    split <;> rfl
  unfold isFile find? locate at h
  rw [hnone] at h
  split at h
  · rename_i hlocate
    split at hlocate
    · cases hlocate
    · split at hlocate
      · cases hlocate
      · cases hlocate
        rw [hdir] at h
        cases h
  · cases h
  · cases h

theorem Path.exists_withSuffix? {path : Path} (hne : path.names ≠ [])
    (hnames : ∀ name ∈ path.names, name ≠ []) (suffix : Text) :
    ∃ p, path.withSuffix? suffix = some p := by
  have hname : path.name.isEmpty = false := by
    rw [name, List.getLast?_eq_some_getLast hne, Option.getD_some, List.isEmpty_eq_false_iff]
    exact hnames _ (List.getLast_mem hne)
  exact ⟨_, by rw [withSuffix?, hname]; rfl⟩

namespace Convert

variable {options : ConvertOptions} {tree : FileTree} {fault : ConvertFault}

/-! ## What is wrong -/

/-- What is wrong with the numbering that is to be loaded, with the sketch, or with a command that is
to be carried out. -/
inductive Rejected (options : ConvertOptions) (tree : FileTree) : ConvertFault → Prop
  | numbering {fault : ConvertFault} {after : FileTree}
      (h : Fails (loadNumbering options) tree fault after) : Rejected options tree fault
  | sketch {text : Text} {numbering : Numbering} {fault : ResolveFault}
      (hload : Returns (loadNumbering options) tree numbering tree)
      (hread : tree.read options.input = .ok text)
      (h : (Sketch.compile ⟨true, options.strict⟩ numbering text).1 = .error fault) :
      Rejected options tree (.resolve fault)
  | command {text : Text} {numbering later : Numbering} {diagram : Diagram}
      {fault : OversizedNumeral}
      (hload : Returns (loadNumbering options) tree numbering tree)
      (hread : tree.read options.input = .ok text)
      (hcompile : Sketch.compile ⟨true, options.strict⟩ numbering text = (.ok diagram, later))
      (h : (Document.sink.executeAll diagram.nodes
          ([], Document.ofDiagram options.input.stem none diagram)
          (options.requests diagram)).2 = .error fault) :
      Rejected options tree (.oversized fault)

theorem document_of_compile_error {numbering : Numbering} {title text : Text} {cause : ResolveFault}
    (h : (Sketch.compile ⟨true, options.strict⟩ numbering text).1 = .error cause) :
    document options numbering title text = .error (.resolve cause) := by
  unfold document
  split
  · rename_i hcompile
    rw [hcompile] at h
    rw [Except.error.inj h]
  · rename_i hcompile
    rw [hcompile] at h
    cases h

theorem document_of_command_error {numbering later : Numbering} {title text : Text}
    {diagram : Diagram} {cause : OversizedNumeral}
    (hcompile : Sketch.compile ⟨true, options.strict⟩ numbering text = (.ok diagram, later))
    (h : (Document.sink.executeAll diagram.nodes ([], Document.ofDiagram title none diagram)
      (options.requests diagram)).2 = .error cause) :
    document options numbering title text = .error (.oversized cause) := by
  unfold document
  rw [hcompile]
  rcases requests_cases options diagram with ⟨hrun, hrequests, -⟩ | ⟨-, hrequests⟩
  · rw [hrequests] at h
    simp only [hrun, if_true]
    unfold ranDocument
    split
    · rename_i hexecute
      rw [hexecute] at h
      rw [Except.error.inj h]
      rfl
    · rename_i hexecute
      rw [hexecute] at h
      cases h
  · rw [hrequests] at h
    cases h

/-! ## What becomes of the files -/

/-- **Without a document nothing is written.** -/
theorem fails_file {numbering : Numbering} {raw : Text} {output : Path}
    (hread : tree.read options.input = .ok raw) (houtput : options.outputPath? = some output)
    (h : document options numbering options.input.stem (Sketch.unifyLineEnds raw) = .error fault) :
    Fails (file options numbering options.input options.output) tree fault tree := by
  refine Returns.bind_fails (returns_readText_iff.mpr ⟨⟨raw, hread, rfl⟩, rfl⟩) ?_
  unfold ConvertOptions.outputPath? at houtput
  cases hgiven : options.output with
  | some path =>
    refine (returns_pure_iff.mpr ⟨rfl, rfl⟩).bind_fails ?_
    rw [h]
    exact fails_throw fault
  | none =>
    rw [hgiven] at houtput
    refine (returns_withSuffix_iff.mpr ⟨houtput, rfl⟩).bind_fails ?_
    rw [h]
    exact fails_throw fault

/-- A sketch that is rejected is not converted, and no file is changed. -/
theorem Rejected.fails_single (h : Rejected options tree fault) {output : Path}
    (houtput : options.outputPath? = some output) : Fails (single options) tree fault tree := by
  cases h with
  | numbering hfails =>
    obtain rfl := (readsOnly_loadNumbering options).eq_of_fails hfails
    exact hfails.bind
  | sketch hload hread hcompile =>
    refine hload.bind_fails (Fails.bind (fails_file hread houtput (document_of_compile_error ?_)))
    rwa [Sketch.compile_unifyLineEnds]
  | command hload hread hcompile hcommand =>
    rw [← Sketch.compile_unifyLineEnds] at hcompile
    exact hload.bind_fails
      (Fails.bind (fails_file hread houtput (document_of_command_error hcompile hcommand)))

/-- **A sketch that is rejected changes no file.**  The program ends with exit code 1 and the message
of what is wrong, unless its input is no file at all. -/
theorem run_of_rejected {commandLine : List Text} {arguments : Arguments}
    (hreads : grammar.read commandLine = .ok arguments)
    (hsingle : (optionsOf arguments).batch = false)
    (h : Rejected (optionsOf arguments) tree fault) :
    ∃ message, run commandLine tree = .failed [] message tree ∧
      (run commandLine tree).exit = 1 ∧ (run commandLine tree).tree = tree ∧
      (tree.isFile (optionsOf arguments).input = .ok true → message = fault.message) := by
  suffices hends : ∃ message, run commandLine tree = .failed [] message tree ∧
      (tree.isFile (optionsOf arguments).input = .ok true → message = fault.message) by
    obtain ⟨message, hrun, hmessage⟩ := hends
    exact ⟨message, hrun, by rw [hrun]; rfl, by rw [hrun]; rfl, hmessage⟩
  have hrun : run commandLine tree = runWith (optionsOf arguments) tree := by
    rw [run, hreads]
  rw [hrun]
  unfold runWith
  simp only [hsingle, Bool.false_eq_true, if_false]
  cases hfile : tree.isFile (optionsOf arguments).input with
  | error cause => exact ⟨_, rfl, fun hfound => by cases hfound⟩
  | ok found =>
    cases found with
    | false => exact ⟨_, rfl, fun hfound => by cases hfound⟩
    | true =>
      have houtput : ∃ output, (optionsOf arguments).outputPath? = some output := by
        obtain ⟨path, hpath⟩ := Path.exists_withSuffix? (FileTree.names_ne_nil_of_isFile hfile)
          (fun name => Path.ne_nil_of_mem_ofText) ".json"
        unfold ConvertOptions.outputPath?
        rw [hpath]
        cases (optionsOf arguments).output with
        | none => exact ⟨path, rfl⟩
        | some output => exact ⟨output, rfl⟩
      obtain ⟨output, houtput⟩ := houtput
      have hfails := h.fails_single houtput
      rw [Fails] at hfails
      rw [hfails]
      exact ⟨_, rfl, fun _ => rfl⟩

/-- The second line of a sketch refers to nothing, when the first one has given two labels their
numbers; a document, its code and a numbering are there from before. -/
theorem run_of_rejected_strict :
    let commandLine : List Text := ["s.sketch", "--strict", "--emit", "dot", "--ids", "ids.json"]
    let arguments : Arguments := ⟨[(.flag ["--strict"], none),
      (.choice ["--emit"] ["dot", "mermaid"], some "dot"), (.value ["--ids"], some "ids.json")],
      ["s.sketch"]⟩
    let numbering : Numbering := ⟨[("X", 1)], [(1, "X")], 2⟩
    let tree : FileTree := ⟨[], [(["s.sketch"], "A -> B\n:9 -> C"), (["s.json"], "before"),
      (["s.dot"], "before"), (["ids.json"], Json.pretty numbering.toJson)]⟩
    let fault : ConvertFault := .resolve (.unresolved ⟨":9", some 9⟩)
    grammar.read commandLine = .ok arguments ∧ (optionsOf arguments).batch = false ∧
      Rejected (optionsOf arguments) tree fault ∧
      ∃ message, run commandLine tree = .failed [] message tree ∧
        (run commandLine tree).exit = 1 ∧ (run commandLine tree).tree = tree ∧
        (tree.isFile (optionsOf arguments).input = .ok true → message = fault.message) := by
  intro commandLine arguments numbering tree fault
  have hreads : grammar.read commandLine = .ok arguments := rfl
  have hsingle : (optionsOf arguments).batch = false := by decide +kernel
  have hsound : numbering.Sound := ⟨by decide, rfl, by decide⟩
  have hids : (optionsOf arguments).ids = .named ⟨[], ["ids.json"]⟩ := by decide +kernel
  have hload : Returns (loadNumbering (optionsOf arguments)) tree numbering tree :=
    returns_loadNumbering hids (by decide +kernel) hsound (by decide)
       (holds_of_read_pretty ((Numbering.toJson_fitsIn hsound).mono (by decide))
        (by decide +kernel) (by decide +kernel))
  have hread : tree.read (optionsOf arguments).input = .ok ("A -> B\n:9 -> C" : Text) := by
    decide +kernel
  have hrejected : Rejected (optionsOf arguments) tree fault :=
    .sketch hload hread (by decide +kernel)
  exact ⟨hreads, hsingle, hrejected, run_of_rejected hreads hsingle hrejected⟩

end Convert

end GraphSketch
