import GraphSketch.Proofs.Cli.BatchFile
import GraphSketch.Proofs.Text.Order

/-!
# All files of a directory

The files of a directory are converted one after the other, and none of them matters to what
becomes of another one: every file comes to its own outcome, whatever the others come to and
whether or not they fail (`Convert.Ready.converts_batchFiles`).  So the figures of the summary add
up, and each file that was converted has its entry there (`Convert.batch_tallied`).

* `Convert.outcomes` — what the files come to, each by itself (`Convert.outcome`).
* `Convert.Converts` — what a run over files leaves: their outcomes as reports, and what was
  written last under each stem.  The proof is by induction on the names; what carries it is that
  no output is at the location of a sketch (`sketch_ne_output`), so that the sketches still to
  come are read as they were (`Ready.source_eq`).
* `Stats.total_ofReports` — every report is counted once, as a success, a failure or an empty
  file.
* `exit_batch_eq_zero_iff` — when a whole run ends well.

The words of a failure name the path of the file, so reports are compared without them
(`plainReports`); they do not come into the summary (`summary_plainReports`).
-/

set_option autoImplicit false

namespace GraphSketch

/-! ## Names in order -/

namespace Convert

variable {options : ConvertOptions} {tree after : FileTree} {dir : Path} {name : Text}

theorem mem_sketchNames_iff (h : tree.IsDir dir) : name ∈ sketchNames tree dir ↔
    isSketchName name = true ∧ dir.location ++ [name] ∈ tree.locations := by
  rw [sketchNames, List.mem_mergeSort, List.mem_filter, FileTree.mem_list_iff h, and_comm]

/-- The names of sketches are in order, and none of them comes twice. -/
theorem pairwise_sketchNames (h : tree.locations.Nodup) :
    (sketchNames tree dir).Pairwise fun a b => Text.before a b = true := by
  have hle : ∀ a b : Text, (!Text.before b a) = true ↔ a ≤ b := fun a b => by
    rw [Bool.not_eq_true', Text.before_eq_false_iff_le]
  have hsorted : (sketchNames tree dir).Pairwise fun a b => (!Text.before b a) = true :=
    List.pairwise_mergeSort
      (fun a b c hab hbc => (hle a c).mpr (((hle a b).mp hab).trans ((hle b c).mp hbc)))
      (fun a b => by
        rw [Bool.or_eq_true, hle, hle]
        exact le_total a b)
      ((tree.list dir).filter isSketchName)
  have hnodup : (sketchNames tree dir).Nodup :=
    (List.mergeSort_perm _ _).nodup_iff.mpr ((FileTree.nodup_list h).filter _)
  refine (hsorted.and hnodup).imp fun {a b} ⟨hab, hne⟩ => ?_
  exact Text.before_iff_lt.mpr (lt_of_le_of_ne ((hle a b).mp hab) hne)

theorem sketchNames_of_pairwise {names : List Text}
    (hlist : (tree.list dir).filter isSketchName = names)
    (h : names.Pairwise fun a b => (!Text.before b a) = true) : sketchNames tree dir = names := by
  rw [sketchNames, hlist]
  exact List.mergeSort_of_pairwise h

/-! ## One file after the other -/

/-- What files come to, with the stems of their names. -/
def outcomes (options : ConvertOptions) (tree : FileTree) (names : List Text) :
    List (Text × Report) :=
  names.map fun name => (Path.stemOf name, outcome options name (source options tree name))

/-- What is written as documents, with the stems under which it is. -/
def documentsSent (options : ConvertOptions) (tree : FileTree) (names : List Text) :
    List (Text × Text) :=
  names.filterMap fun name =>
    (sent? options name (source options tree name)).map fun t => (Path.stemOf name, t)

/-- Reports without what is said of failures. -/
def plainReports (reports : List (Text × Report)) : List (Text × Report) :=
  reports.map fun e => (e.1, e.2.plain)

/-- What a run over files comes to. -/
structure Converts (options : ConvertOptions) (names : List Text) (tree : FileTree)
    (reports : List (Text × Report)) (after : FileTree) : Prop where
  reports : plainReports reports = outcomes options tree names
  dirs : after.dirs = tree.dirs
  /-- Of several documents under one stem the last one is left. -/
  documents : ∀ stem, after.fileAt? (outputLocation options (stem ++ ".json")) =
    (OrderedMap.last? (documentsSent options tree names) stem).or
      (tree.fileAt? (outputLocation options (stem ++ ".json")))
  others : ∀ l, (∀ stem, ∀ suffix ∈ outputSuffixes, l ≠ outputLocation options (stem ++ suffix)) →
    after.fileAt? l = tree.fileAt? l

theorem sketch_ne_output (hname : isSketchName name = true) (stem : Text) {suffix : Text}
    (hsuffix : suffix ∈ outputSuffixes) :
    options.input.location ++ [name] ≠ outputLocation options (stem ++ suffix) := by
  intro hsame
  obtain rfl : name = stem ++ suffix := List.singleton_inj.mp (List.append_inj_right' hsame rfl)
  rw [isSketchName_output hsuffix] at hname
  cases hname

theorem Ready.source_eq (h : Ready options tree) (hname : isSketchName name = true)
    (hdirs : after.dirs = tree.dirs)
    (hothers : ∀ l, (∀ stem, ∀ suffix ∈ outputSuffixes,
      l ≠ outputLocation options (stem ++ suffix)) → after.fileAt? l = tree.fileAt? l) :
    source options after name = source options tree name := by
  have hup := isSketchName_ne_up hname
  have hfile := hothers _ fun stem suffix hsuffix => sketch_ne_output hname stem hsuffix
  have hread : ∀ t, after.read (options.input.child name) = .ok t ↔
      tree.read (options.input.child name) = .ok t := fun t => by
    rw [FileTree.read_child_eq_ok_iff (h.of_dirs_eq hdirs).input hup,
      FileTree.read_child_eq_ok_iff h.input hup, hfile, FileTree.isDirAt, hdirs, FileTree.isDirAt]
  rw [source, source]
  cases hbefore : tree.read (options.input.child name) with
  | ok t => rw [(hread t).mpr hbefore]
  | error fault =>
    cases hafter : after.read (options.input.child name) with
    | ok t => rw [(hread t).mp hafter] at hbefore; cases hbefore
    | error fault' => rfl

theorem Leaves.of_ne_outputs {sent : Option Text} (h : Leaves options name sent tree after)
    (l : Location) (hl : ∀ stem, ∀ suffix ∈ outputSuffixes,
      l ≠ outputLocation options (stem ++ suffix)) : after.fileAt? l = tree.fileAt? l := by
  refine h.others l fun output houtput => ?_
  obtain ⟨suffix, hsuffix, rfl⟩ := exists_of_mem_outputNames houtput
  exact hl _ suffix hsuffix

theorem Leaves.document_eq {sent : Option Text} (h : Leaves options name sent tree after)
    (stem : Text) : after.fileAt? (outputLocation options (stem ++ ".json")) =
      (OrderedMap.last? (sent.map fun t => (Path.stemOf name, t)).toList stem).or
        (tree.fileAt? (outputLocation options (stem ++ ".json"))) := by
  by_cases hstem : stem = Path.stemOf name
  · have hdocument := h.document
    rw [documentName, ← hstem] at hdocument
    rw [hdocument]
    cases sent with
    | none => rfl
    | some t =>
      rw [Option.map_some, Option.toList_some, OrderedMap.last?_singleton, if_pos hstem.symm]
  · rw [h.others _ fun output houtput hsame => ?_]
    · cases sent with
      | none => rfl
      | some t =>
        rw [Option.map_some, Option.toList_some, OrderedMap.last?_singleton, if_neg (Ne.symm hstem),
          Option.none_or]
    · obtain ⟨suffix, hsuffix, rfl⟩ := exists_of_mem_outputNames houtput
      exact hstem (output_inj (by decide) hsuffix (outputLocation_inj hsame)).1

theorem documentsSent_cons (name : Text) (names : List Text) :
    documentsSent options tree (name :: names) =
      ((sent? options name (source options tree name)).map fun t => (Path.stemOf name, t)).toList ++
        documentsSent options tree names := by
  rw [documentsSent, documentsSent, List.filterMap_cons]
  cases sent? options name (source options tree name) <;> rfl

/-- **Files are converted independently.**  Each of them comes to its own outcome, and so does what
is written for it. -/
theorem Ready.converts_batchFiles : ∀ {names : List Text} {tree : FileTree}, Ready options tree →
    (∀ name ∈ names, isSketchName name = true) →
      ∃ reports after, batchFiles options (batchOutput options) names tree = (reports, after) ∧
        Converts options names tree reports after
  | [], tree, _, _ => ⟨[], tree, rfl, rfl, rfl, fun _ => rfl, fun _ _ => rfl⟩
  | name :: names, tree, h, hnames => by
    obtain ⟨hname, hrest⟩ := List.forall_mem_cons.mp hnames
    obtain ⟨result, middle, hrun, hreport, hleaves⟩ := h.converts_batchFile hname
    obtain ⟨reports, after, hruns, hconverts⟩ :=
      (h.of_dirs_eq hleaves.dirs).converts_batchFiles hrest
    have hsource : ∀ other ∈ names, source options middle other = source options tree other :=
      fun other hother => h.source_eq (hrest other hother) hleaves.dirs hleaves.of_ne_outputs
    refine ⟨(Path.stemOf name, reportOf result) :: reports, after, ?_, ?_, ?_, fun stem => ?_,
      fun l hl => ?_⟩
    · rw [batchFiles, hrun]
      dsimp only
      rw [hruns]
      cases result <;> rfl
    · have htail : outcomes options middle names = outcomes options tree names :=
        List.map_congr_left fun other hother => by rw [hsource other hother]
      rw [plainReports, List.map_cons, ← plainReports, hconverts.reports, htail, hreport]
      rfl
    · exact hconverts.dirs.trans hleaves.dirs
    · have htail : documentsSent options middle names = documentsSent options tree names :=
        List.filterMap_congr fun other hother => by rw [hsource other hother]
      rw [hconverts.documents, htail, documentsSent_cons, OrderedMap.last?_append, Option.or_assoc,
        hleaves.document_eq]
    · rw [hconverts.others l hl, hleaves.of_ne_outputs l hl]

/-! ## Figures -/

theorem Stats.ofReports_plainReports (reports : List (Text × Report)) :
    Stats.ofReports (plainReports reports) = Stats.ofReports reports := by
  have hplain : ∀ report : Report, report.plain.isSuccess = report.isSuccess ∧
      report.plain.isFailed = report.isFailed ∧ report.plain.isEmpty = report.isEmpty := by
    intro report
    cases report <;> exact ⟨rfl, rfl, rfl⟩
  simp only [Stats.ofReports, plainReports, List.length_map, List.countP_map, Function.comp_def,
    (hplain _).1, (hplain _).2.1, (hplain _).2.2]

theorem summary_plainReports (reports : List (Text × Report)) :
    summary (plainReports reports) = summary reports := by
  have hplain : ∀ (id : Text) (report : Report), report.plain.toJson? id = report.toJson? id := by
    intro id report
    cases report <;> rfl
  have hresults : (plainReports reports).filterMap (fun e => e.2.toJson? e.1) =
      reports.filterMap fun e => e.2.toJson? e.1 := by
    simp only [plainReports, List.filterMap_map, Function.comp_def, hplain]
  rw [summary, Stats.ofReports_plainReports, hresults]
  rfl

theorem Report.counted_once (report : Report) : (if report.isSuccess = true then 1 else 0) +
    (if report.isFailed = true then 1 else 0) + (if report.isEmpty = true then 1 else 0) = 1 := by
  cases report with
  | failed message => rfl
  | blank => rfl
  | converted counts => by_cases hnone : counts.nodes = 0 <;> simp [isSuccess, isFailed, isEmpty, hnone]

/-- **Every file is counted once**, as a success, a failure, or an empty one. -/
theorem Stats.total_ofReports : ∀ reports : List (Text × Report),
    (Stats.ofReports reports).total = (Stats.ofReports reports).success +
      (Stats.ofReports reports).failed + (Stats.ofReports reports).empty
  | [] => rfl
  | (id, report) :: reports => by
    have ih := Stats.total_ofReports reports
    have hone := report.counted_once
    simp only [Stats.ofReports, List.length_cons, List.countP_cons] at ih ⊢
    omega

/-- The entry of a converted file in the summary. -/
def entry (id : Text) (counts : Counts) : Json :=
  .obj [Json.textField "id" id, Json.intField "nodes" counts.nodes,
    Json.intField "edges" counts.edges, Json.intField "commands" counts.commands,
    Json.intField "errors" counts.errors]

/-- Whether a file neither failed nor was blank. -/
def Report.isConverted : Report → Bool
  | .converted _ => true
  | _ => false

theorem forall₂_entries (f : Text → Report) : ∀ names : List Text,
    List.Forall₂ (fun name v => ∃ counts, f name = .converted counts ∧
      v = entry (Path.stemOf name) counts) (names.filter fun name => (f name).isConverted)
      (names.filterMap fun name => (f name).toJson? (Path.stemOf name))
  | [] => .nil
  | name :: names => by
    have ih := forall₂_entries f names
    rw [List.filter_cons, List.filterMap_cons]
    cases hreport : f name with
    | converted counts => exact .cons ⟨counts, hreport, rfl⟩ ih
    | failed message => exact ih
    | blank => exact ih

theorem results_summary (options : ConvertOptions) (tree : FileTree) (names : List Text) :
    (summary (outcomes options tree names)).field? "results" =
      some (.arr (names.filterMap fun name =>
        (outcome options name (source options tree name)).toJson? (Path.stemOf name))) :=
  congrArg (fun entries => some (Json.arr entries)) (List.filterMap_map ..)

/-! ## The whole directory -/

/-- What is printed of the files of a directory. -/
def printedOf (names : List Text) (reports : List (Text × Report)) : Text :=
  batchHeader names.length ++ reportLines 1 reports ++ batchFooter (Stats.ofReports reports)

/-- The file of the summary. -/
def summaryPath (options : ConvertOptions) : Path := (batchOutput options).child summaryName

/-- What a run over the files of a directory comes to.  The output directory has been made in
`made`. -/
structure Tallied (options : ConvertOptions) (tree made : FileTree) (names : List Text)
    (ending : Ending) : Prop where
  /-- The files are those of the directory that have the name of a sketch, in order. -/
  matched : ∀ name, name ∈ names ↔
    isSketchName name = true ∧ options.input.location ++ [name] ∈ made.locations
  sorted : names.Pairwise fun a b => Text.before a b = true
  /-- The report on each file is its own outcome, but for the words on a failure. -/
  reported : ∃ reports after, batchFiles options (batchOutput options) names made = (reports, after) ∧
    plainReports reports = outcomes options tree names ∧
    (names ≠ [] → ∃ rest, ending.out = batchHeader names.length ++ reportLines 1 reports ++
      batchFooter (Stats.ofReports (outcomes options tree names)) ++ rest)
  /-- The figures add up to the number of the files. -/
  counted : (Stats.ofReports (outcomes options tree names)).total = names.length ∧
    names.length = (Stats.ofReports (outcomes options tree names)).success +
      (Stats.ofReports (outcomes options tree names)).failed +
      (Stats.ofReports (outcomes options tree names)).empty
  /-- The summary has one entry for each file that neither failed nor was blank, in their order. -/
  results : ∃ entries, (summary (outcomes options tree names)).field? "results" =
      some (.arr entries) ∧
    List.Forall₂ (fun name v => ∃ counts,
        outcome options name (source options tree name) = .converted counts ∧
        v = entry (Path.stemOf name) counts)
      (names.filter fun name => (outcome options name (source options tree name)).isConverted)
      entries
  /-- The run ends well if the summary can be written, or if there are no files. -/
  exit : ending.exit = 0 ↔ names = [] ∨ admits options summaryName = true
  /-- The summary is written. -/
  saved : names ≠ [] → ending.exit = 0 →
    ending.tree.read (summaryPath options) =
      .ok (Json.pretty (summary (outcomes options tree names)))
  /-- Without files there is none. -/
  none : names = [] →
    ending = .done (line ("No sketch files found in " ++ options.input.toText)) made

/-- A batch can be run where its output directory was missing or empty. -/
theorem ready_of_makeDirs {made : FileTree} (hinput : tree.IsDir options.input)
    (hvacant : tree.Vacant (batchOutput options).location)
    (hmade : tree.makeDirs (batchOutput options) = .ok made) : Ready options made where
  input := (FileTree.grows_makeDirs hmade).1.isDir hinput
  output := FileTree.isDir_makeDirs hmade
  takes _ hsuffix stem := FileTree.takes_child_makeDirs hmade hvacant (output_ne hsuffix stem).1
    (output_ne hsuffix stem).2

/-- To make the output directory does not matter to what can be read. -/
theorem source_makeDirs {made : FileTree} (hinput : tree.IsDir options.input)
    (hmade : tree.makeDirs (batchOutput options) = .ok made) (hname : isSketchName name = true) :
    source options made name = source options tree name :=
  FileTree.read_child_makeDirs hmade hinput (isSketchName_ne_up hname)

theorem outcomes_makeDirs {made : FileTree} {names : List Text} (hinput : tree.IsDir options.input)
    (hmade : tree.makeDirs (batchOutput options) = .ok made)
    (hnames : ∀ name ∈ names, isSketchName name = true) :
    outcomes options made names = outcomes options tree names :=
  List.map_congr_left fun name hname => by
    rw [source_makeDirs hinput hmade (hnames name hname)]

theorem documentsSent_makeDirs {made : FileTree} {names : List Text}
    (hinput : tree.IsDir options.input) (hmade : tree.makeDirs (batchOutput options) = .ok made)
    (hnames : ∀ name ∈ names, isSketchName name = true) :
    documentsSent options made names = documentsSent options tree names :=
  List.filterMap_congr fun name hname => by
    rw [source_makeDirs hinput hmade (hnames name hname)]

theorem batch_of_nil {made : FileTree} (hmade : tree.makeDirs (batchOutput options) = .ok made)
    (hnil : sketchNames made options.input = []) : batch options tree =
      .done (line ("No sketch files found in " ++ options.input.toText)) made := by
  simp only [batch, hmade, hnil]

/-- After the files have been converted the summary is written, if it can be. -/
theorem batch_of_names {made : FileTree} {reports : List (Text × Report)}
    (hmade : tree.makeDirs (batchOutput options) = .ok made)
    (hnames : sketchNames made options.input ≠ [])
    (hruns : batchFiles options (batchOutput options) (sketchNames made options.input) made =
      (reports, after)) :
    (after.takes (summaryPath options) = false → ∃ message, batch options tree =
        .failed (printedOf (sketchNames made options.input) reports) message after) ∧
      (after.takes (summaryPath options) = true → ∃ rest last,
        after.write (summaryPath options) (Json.pretty (summary reports)) = .ok last ∧
        batch options tree =
          .done (printedOf (sketchNames made options.input) reports ++ rest) last) := by
  obtain ⟨first, others, hlist⟩ := List.exists_cons_of_ne_nil hnames
  rw [hlist] at hruns
  rw [hlist]
  unfold batch
  simp only [hmade, hlist, hruns]
  refine ⟨fun htakes => ?_, fun htakes => ?_⟩
  · obtain ⟨fault, hwrite⟩ := FileTree.write_of_not_takes htakes (Json.pretty (summary reports))
    rw [summaryPath] at hwrite
    rw [hwrite]
    exact ⟨fault.message, rfl⟩
  · have hwrite := FileTree.write_of_takes htakes (Json.pretty (summary reports))
    refine ⟨line [] ++ (line ("Output: " ++ (batchOutput options).toText) ++
      line ("Summary: " ++ (summaryPath options).toText)), _, hwrite, ?_⟩
    rw [summaryPath] at hwrite
    rw [hwrite]
    simp only [printedOf, summaryPath, List.append_assoc]

/-- The summary can be written where a batch is run if its name can. -/
theorem Ready.takes_summaryPath (h : Ready options tree) (hdirs : after.dirs = tree.dirs) :
    after.takes (summaryPath options) = admits options summaryName :=
  (FileTree.takes_of_dirs_eq hdirs).trans (h.takes ".json" (by decide) "conversion_summary")

/-- **The summary is that of the outcomes**, if the run ends well. -/
theorem read_summaryPath {made : FileTree} (hinput : tree.IsDir options.input)
    (hvacant : tree.Vacant (batchOutput options).location)
    (hmade : tree.makeDirs (batchOutput options) = .ok made)
    (hne : sketchNames made options.input ≠ []) (hexit : (batch options tree).exit = 0) :
    (batch options tree).tree.read (summaryPath options) =
      .ok (Json.pretty (summary (outcomes options tree (sketchNames made options.input)))) := by
  have hready := ready_of_makeDirs hinput hvacant hmade
  have hnames : ∀ name ∈ sketchNames made options.input, isSketchName name = true :=
    fun name hname => ((mem_sketchNames_iff hready.input).mp hname).1
  obtain ⟨reports, after, hruns, hconverts⟩ := hready.converts_batchFiles hnames
  have hplain := hconverts.reports.trans (outcomes_makeDirs hinput hmade hnames)
  obtain ⟨hfails, hreturns⟩ := batch_of_names hmade hne hruns
  cases htakes : after.takes (summaryPath options) with
  | false =>
    obtain ⟨message, hbatch⟩ := hfails htakes
    rw [hbatch] at hexit
    cases hexit
  | true =>
    obtain ⟨rest, last, hwrite, hbatch⟩ := hreturns htakes
    rw [hbatch, ← hplain, summary_plainReports]
    exact FileTree.read_write hwrite

/-- A run ends well exactly if the summary can be written, or if there are no files. -/
theorem exit_batch_eq_zero_iff {made : FileTree} (hinput : tree.IsDir options.input)
    (hvacant : tree.Vacant (batchOutput options).location)
    (hmade : tree.makeDirs (batchOutput options) = .ok made) :
    (batch options tree).exit = 0 ↔
      sketchNames made options.input = [] ∨ admits options summaryName = true := by
  have hready := ready_of_makeDirs hinput hvacant hmade
  by_cases hnil : sketchNames made options.input = []
  · rw [batch_of_nil hmade hnil]
    exact iff_of_true rfl (Or.inl hnil)
  · have hnames : ∀ name ∈ sketchNames made options.input, isSketchName name = true :=
      fun name hname => ((mem_sketchNames_iff hready.input).mp hname).1
    obtain ⟨reports, after, hruns, hconverts⟩ := hready.converts_batchFiles hnames
    have htakes := hready.takes_summaryPath hconverts.dirs
    obtain ⟨hfails, hreturns⟩ := batch_of_names hmade hnil hruns
    cases hadmits : admits options summaryName with
    | false =>
      obtain ⟨message, hbatch⟩ := hfails (htakes.trans hadmits)
      rw [hbatch]
      simp [hnil, Ending.failed]
    | true =>
      obtain ⟨rest, last, -, hbatch⟩ := hreturns (htakes.trans hadmits)
      rw [hbatch]
      simp [Ending.done]

/-- **The files of a directory are independent, and all of them are counted.** -/
theorem batch_tallied {made : FileTree} (hwell : tree.WellFormed)
    (hinput : tree.IsDir options.input) (hvacant : tree.Vacant (batchOutput options).location)
    (hmade : tree.makeDirs (batchOutput options) = .ok made) :
    Tallied options tree made (sketchNames made options.input) (batch options tree) := by
  have hready := ready_of_makeDirs hinput hvacant hmade
  have hnames : ∀ name ∈ sketchNames made options.input, isSketchName name = true :=
    fun name hname => ((mem_sketchNames_iff hready.input).mp hname).1
  obtain ⟨reports, after, hruns, hconverts⟩ := hready.converts_batchFiles hnames
  have hplain := hconverts.reports.trans (outcomes_makeDirs hinput hmade hnames)
  have hfigures : Stats.ofReports reports =
      Stats.ofReports (outcomes options tree (sketchNames made options.input)) := by
    rw [← hplain, Stats.ofReports_plainReports]
  have htotal : (Stats.ofReports (outcomes options tree (sketchNames made options.input))).total =
      (sketchNames made options.input).length := List.length_map _
  refine ⟨fun name => mem_sketchNames_iff hready.input,
    pairwise_sketchNames (FileTree.nodup_locations_makeDirs hwell.nodup hmade),
    ⟨reports, after, hruns, hplain, fun hne => ?_⟩,
    ⟨htotal, htotal.symm.trans (Stats.total_ofReports _)⟩,
    ⟨_, results_summary options tree _, forall₂_entries _ _⟩,
    exit_batch_eq_zero_iff hinput hvacant hmade, read_summaryPath hinput hvacant hmade,
    batch_of_nil hmade⟩
  obtain ⟨hfails, hreturns⟩ := batch_of_names hmade hne hruns
  rw [← hfigures]
  cases htakes : after.takes (summaryPath options) with
  | false =>
    obtain ⟨message, hbatch⟩ := hfails htakes
    rw [hbatch]
    exact ⟨[], (List.append_nil _).symm⟩
  | true =>
    obtain ⟨rest, last, -, hbatch⟩ := hreturns htakes
    rw [hbatch]
    exact ⟨rest, rfl⟩

/-- One file is blank, one refers to nothing, and one has a document. -/
theorem batch_tallied_of_three :
    let options : ConvertOptions :=
      ⟨⟨[], ["in"]⟩, some ⟨[], ["out"]⟩, true, some .dot, true, .none, false, true⟩
    let tree : FileTree := ⟨[["in"]], [(["in", "a.txt"], " \n"), (["in", "b.txt"], ":9 -> C"),
      (["in", "c.sketch"], "A -> B\n=layout(spiral)"), (["in", "notes.md"], "A")]⟩
    let made : FileTree := { tree with dirs := [["in"], ["out"]] }
    tree.WellFormed ∧ tree.IsDir options.input ∧ tree.Vacant (batchOutput options).location ∧
      tree.makeDirs (batchOutput options) = .ok made ∧
      outcomes options tree (sketchNames made options.input) = ([("a", .blank), ("b", .failed []),
        ("c", .converted ⟨2, 1, 1, 0⟩)] : List (Text × Report)) ∧
      (batch options tree).exit = 0 ∧
      Tallied options tree made (sketchNames made options.input) (batch options tree) := by
  intro options tree made
  have hwell : tree.WellFormed := ⟨by decide +kernel, by decide +kernel⟩
  have hinput : tree.IsDir options.input := ⟨by decide +kernel, by decide +kernel⟩
  have hvacant : tree.Vacant (batchOutput options).location :=
    hwell.vacant_of_missing (by decide +kernel)
  have hmade : tree.makeDirs (batchOutput options) = .ok made := by decide +kernel
  have hnames : sketchNames made options.input = (["a.txt", "b.txt", "c.sketch"] : List Text) :=
    sketchNames_of_pairwise (by decide +kernel) (by decide +kernel)
  have htallied := batch_tallied hwell hinput hvacant hmade
  refine ⟨hwell, hinput, hvacant, hmade, ?_, htallied.exit.mpr (Or.inr (by decide +kernel)),
    htallied⟩
  rw [hnames]
  decide +kernel

/-- Of two files with the same text one is converted and the other one fails: with the suffix of a
document its name is too long. -/
theorem batchFiles_of_long_name :
    let long : Text := List.replicate 251 'n'
    let options : ConvertOptions :=
      ⟨⟨[], ["in"]⟩, some ⟨[], ["out"]⟩, true, none, false, .none, false, false⟩
    let tree : FileTree := ⟨[["in"]], [(["in", "a.txt"], "A"), (["in", long ++ ".txt"], "A")]⟩
    let made : FileTree := { tree with dirs := [["in"], ["out"]] }
    tree.makeDirs (batchOutput options) = .ok made ∧
      tree.read (options.input.child "a.txt") = .ok "A" ∧
      tree.read (options.input.child (long ++ ".txt")) = .ok "A" ∧
      sketchNames made options.input = (["a.txt", long ++ ".txt"] : List Text) ∧
      (batchFiles options (batchOutput options) (sketchNames made options.input) made).1 =
        ([("a", .converted ⟨1, 0, 0, 0⟩),
          (long, .failed ("[Errno 36] File name too long: 'out/" ++ long ++ ".json'"))] :
            List (Text × Report)) := by
  intro long options tree made
  have hnames : sketchNames made options.input = (["a.txt", long ++ ".txt"] : List Text) :=
    sketchNames_of_pairwise (by decide +kernel) (by decide +kernel)
  refine ⟨by decide +kernel, by decide +kernel, by decide +kernel, hnames, ?_⟩
  rw [hnames]
  decide +kernel

end Convert

end GraphSketch
