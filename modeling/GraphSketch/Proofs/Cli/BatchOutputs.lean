import GraphSketch.Proofs.Cli.Batch
import Mathlib.Data.List.Perm.Subperm

/-!
# The documents of a directory

A file that is counted as a success has been written as a document, but the names of documents are
made from stems.  Files may share a stem, and a stem may be that of the summary: then the document
that is written last, or the summary, is what is left (`Convert.batch_delivers`).

* `of_outcome_eq_converted` — a converted file has been written as a whole document, with all its
  integers as they are (`Convert.WritesOwn`).
* `Convert.IsOverwritten` — a file with the same stem is converted later.  The last entry under a
  stem is that of a file which is not overwritten (`last?_of_not_isOverwritten`), and if a file
  is, there is another entry (`exists_last?_of_isOverwritten`).
* `Convert.Delivers` — what a run leaves in the output directory: under each stem the document
  that was written last, and where no document is lost at least as many of them as there are
  successes.

`batch_of_shared_stems` is a directory where two documents are counted and one is left.
-/

set_option autoImplicit false

namespace GraphSketch

namespace Convert

variable {options : ConvertOptions} {tree made after : FileTree} {name : Text} {names : List Text}

/-! ## What is written for a file -/

theorem isWritable_handedOn {numbering later : Numbering} {title text : Text} {diagram : Diagram}
    {built : Document}
    (h : document options numbering title text = .ok (diagram, built, later))
    (emit : Option Format) :
    Json.isWritable (.obj (handedOn emit built)) = Json.isWritable (.obj built) := by
  cases emit with
  | none => rfl
  | some format =>
    obtain ⟨code, written, hemit, hwritable⟩ := exists_emit_document h format
    rw [handedOn, hemit, hwritable]

/-- **A file that is converted has been written as a document**, all of it. -/
theorem of_outcome_eq_converted {content : Option Text} {counts : Counts}
    (h : outcome options name content = .converted counts) :
    ∃ raw diagram built, content = some raw ∧ made? options name raw = some (diagram, built) ∧
      counts = Counts.ofDiagram diagram ∧ fits options name = true ∧
      sent? options name content = some (Json.pretty (.obj (handedOn options.emit built))) := by
  cases content with
  | none => cases h
  | some raw =>
    cases hblank : Text.isBlankText (Sketch.unifyLineEnds raw) with
    | true =>
      rw [outcome, verdict_of_blank hblank] at h
      cases h
    | false =>
      rw [outcome_of_document hblank] at h
      rcases hbuilt : document options Numbering.empty (Path.stemOf name)
        (Sketch.unifyLineEnds raw) with fault | ⟨diagram, built, later⟩
      · rw [hbuilt] at h
        cases h
      · rw [hbuilt] at h
        dsimp only at h
        split at h
        · rename_i hgood
          cases h
          obtain ⟨hfits, hwritable⟩ := Bool.and_eq_true_iff.mp hgood
          have hmade : made? options name raw = some (diagram, built) := by
            simp only [made?, hblank, Bool.false_eq_true, if_false, hbuilt, Except.toOption,
              Option.map_some]
          refine ⟨raw, diagram, built, rfl, hmade, rfl, hfits, ?_⟩
          have hwhole := Json.beforeMark_of_isWritable
            ((isWritable_handedOn hbuilt options.emit).trans hwritable)
          simp only [sent?, Option.bind_some, hmade, sentFor?, hfits, hwritable, Bool.or_true,
            Bool.and_self, if_true, hwhole]
        · cases h

/-- The file with a name comes to a document with nodes. -/
def IsSuccess (options : ConvertOptions) (tree : FileTree) (name : Text) : Prop :=
  (outcome options name (source options tree name)).isSuccess = true

/-- What is written as the document of the file with a name. -/
def sentOf? (options : ConvertOptions) (tree : FileTree) (name : Text) : Option Text :=
  sent? options name (source options tree name)

/-- The document that is written for the file with a name is all of its own. -/
def WritesOwn (options : ConvertOptions) (tree : FileTree) (name t : Text) : Prop :=
  ∃ raw diagram built, source options tree name = some raw ∧
    made? options name raw = some (diagram, built) ∧ diagram.nodes ≠ [] ∧
    t = Json.pretty (.obj (handedOn options.emit built)) ∧ sentOf? options tree name = some t

theorem WritesOwn.sent {t : Text} (h : WritesOwn options tree name t) :
    sentOf? options tree name = some t := by
  obtain ⟨raw, diagram, built, -, -, -, -, hsent⟩ := h
  exact hsent

theorem IsSuccess.exists_writesOwn (h : IsSuccess options tree name) :
    ∃ t, WritesOwn options tree name t ∧ fits options name = true := by
  unfold IsSuccess at h
  cases hreport : outcome options name (source options tree name) with
  | failed message => rw [hreport] at h; cases h
  | blank => rw [hreport] at h; cases h
  | converted counts =>
    obtain ⟨raw, diagram, built, hsource, hmade, rfl, hfits, hsent⟩ :=
      of_outcome_eq_converted hreport
    refine ⟨_, ⟨raw, diagram, built, hsource, hmade, ?_, rfl, hsent⟩, hfits⟩
    rw [hreport] at h
    rintro hnil
    simp [Report.isSuccess, Counts.ofDiagram, hnil] at h

/-! ## Documents under one stem -/

theorem documentsSent_append (names later : List Text) :
    documentsSent options tree (names ++ later) =
      documentsSent options tree names ++ documentsSent options tree later :=
  List.filterMap_append

theorem mem_keys_documentsSent {stem : Text} :
    stem ∈ OrderedMap.keys (documentsSent options tree names) ↔
      ∃ name ∈ names, (sentOf? options tree name).isSome = true ∧ Path.stemOf name = stem := by
  simp only [OrderedMap.keys, documentsSent, List.mem_map, List.mem_filterMap,
    Option.map_eq_some_iff, sentOf?, Option.isSome_iff_exists]
  constructor
  · rintro ⟨e, ⟨name, hname, t, ht, rfl⟩, rfl⟩
    exact ⟨name, hname, ⟨t, ht⟩, rfl⟩
  · rintro ⟨name, hname, ⟨t, ht⟩, rfl⟩
    exact ⟨_, ⟨name, hname, t, ht, rfl⟩, rfl⟩

/-- A file is converted later that has the same stem. -/
def IsOverwritten (options : ConvertOptions) (tree : FileTree) (names : List Text) (name : Text) :
    Prop :=
  ∃ later ∈ names, Text.before name later = true ∧ Path.stemOf later = Path.stemOf name ∧
    (sentOf? options tree later).isSome = true

/-- In a sorted list the files that come later are those behind. -/
theorem isOverwritten_iff {earlier later : List Text}
    (hsorted : (earlier ++ name :: later).Pairwise fun a b => Text.before a b = true) :
    IsOverwritten options tree (earlier ++ name :: later) name ↔
      Path.stemOf name ∈ OrderedMap.keys (documentsSent options tree later) := by
  obtain ⟨-, hlater, hearlier⟩ := List.pairwise_append.mp hsorted
  have hafter := (List.pairwise_cons.mp hlater).1
  rw [mem_keys_documentsSent]
  constructor
  · rintro ⟨other, hmem, hbefore, hstem, hsent⟩
    refine ⟨other, ?_, hsent, hstem⟩
    rw [Text.before_iff_lt] at hbefore
    rcases List.mem_append.mp hmem with hmem | hmem
    · have hless := hearlier other hmem name List.mem_cons_self
      rw [Text.before_iff_lt] at hless
      exact absurd hbefore (lt_asymm hless)
    · rcases List.mem_cons.mp hmem with rfl | hmem
      · exact absurd hbefore (lt_irrefl _)
      · exact hmem
  · rintro ⟨other, hother, hsent, hstem⟩
    exact ⟨other, List.mem_append_right _ (List.mem_cons_of_mem _ hother), hafter other hother,
      hstem, hsent⟩

/-- Under the stem of a file is the last document of those behind it, or else its own one. -/
theorem last?_documentsSent (earlier later : List Text) {t : Text}
    (ht : sentOf? options tree name = some t) :
    OrderedMap.last? (documentsSent options tree (earlier ++ name :: later)) (Path.stemOf name) =
      (OrderedMap.last? (documentsSent options tree later) (Path.stemOf name)).or (some t) := by
  rw [documentsSent_append, documentsSent_cons, ← sentOf?, ht, OrderedMap.last?_append,
    OrderedMap.last?_append, Option.map_some, Option.toList_some, OrderedMap.last?_singleton,
    if_pos rfl, Option.or_assoc, Option.some_or]

/-- The document of a file is the last one under its stem, if none comes later. -/
theorem last?_of_not_isOverwritten (hsorted : names.Pairwise fun a b => Text.before a b = true)
    (hname : name ∈ names) {t : Text} (ht : sentOf? options tree name = some t)
    (hnot : ¬ IsOverwritten options tree names name) :
    OrderedMap.last? (documentsSent options tree names) (Path.stemOf name) = some t := by
  obtain ⟨earlier, later, rfl⟩ := List.append_of_mem hname
  rw [isOverwritten_iff hsorted, ← OrderedMap.last?_eq_none_iff] at hnot
  rw [last?_documentsSent earlier later ht, hnot, Option.none_or]

theorem exists_last?_of_isOverwritten
    (hsorted : names.Pairwise fun a b => Text.before a b = true) (hname : name ∈ names) {t : Text}
    (ht : sentOf? options tree name = some t) (hover : IsOverwritten options tree names name) :
    ∃ later ∈ names, Text.before name later = true ∧ Path.stemOf later = Path.stemOf name ∧
      OrderedMap.last? (documentsSent options tree names) (Path.stemOf name) =
        sentOf? options tree later := by
  obtain ⟨earlier, later, rfl⟩ := List.append_of_mem hname
  have hafter := (List.pairwise_cons.mp (List.pairwise_append.mp hsorted).2.1).1
  rw [isOverwritten_iff hsorted, ← not_not (a := _ ∈ _), ← OrderedMap.last?_eq_none_iff] at hover
  obtain ⟨u, hu⟩ := Option.ne_none_iff_exists'.mp hover
  obtain ⟨last, hlast, hentry⟩ := List.mem_filterMap.mp (OrderedMap.mem_of_last?_eq_some hu)
  obtain ⟨sent, hsent, heq⟩ := Option.map_eq_some_iff.mp hentry
  obtain ⟨hstem, rfl⟩ := Prod.mk.inj heq
  refine ⟨last, List.mem_append_right _ (List.mem_cons_of_mem _ hlast), hafter last hlast, hstem, ?_⟩
  rw [last?_documentsSent earlier later ht, hu, Option.some_or, sentOf?, hsent]

/-! ## The whole directory -/

/-- The stem of the summary. -/
def summaryStem : Text := "conversion_summary"

/-- Only the document of a file with that stem would be where the summary is. -/
theorem eq_summaryStem {stem : Text}
    (h : outputLocation options (stem ++ ".json") = outputLocation options summaryName) :
    stem = summaryStem := by
  have hname : stem ++ (".json" : Text) = summaryStem ++ (".json" : Text) := outputLocation_inj h
  exact (output_inj (by decide) (by decide) hname).1

/-- The documents that are in the output directory, which the summary is not. -/
def documentFiles (options : ConvertOptions) (tree : FileTree) : List Location :=
  tree.files.keys.filter fun l =>
    l.dropLast = (batchOutput options).location && List.isSuffixOf ".json" (l.getLast?.getD []) &&
      l ≠ outputLocation options summaryName

/-- The documents that a run over the files of a directory leaves. -/
structure Delivers (options : ConvertOptions) (tree : FileTree) (names : List Text)
    (ending : Ending) : Prop where
  /-- A file that is counted as a success has been written as a document of its own. -/
  written : ∀ name ∈ names, IsSuccess options tree name → ∃ t, WritesOwn options tree name t
  /-- Under each stem that is not that of the summary there is the document that was written last,
  and no other one. -/
  left : ∀ stem ≠ summaryStem, ending.tree.fileAt? (outputLocation options (stem ++ ".json")) =
    OrderedMap.last? (documentsSent options tree names) stem
  /-- The summary is in its file, if its name can be written. -/
  summed : names ≠ [] → admits options summaryName = true → ending.exit = 0 ∧
    ending.tree.read (summaryPath options) =
      .ok (Json.pretty (summary (outcomes options tree names)))
  /-- A success has its document in a file of its own, unless that is the summary or a later file
  has the same stem. -/
  kept : ∀ name ∈ names, IsSuccess options tree name → Path.stemOf name ≠ summaryStem →
    ¬ IsOverwritten options tree names name →
      ∃ t, WritesOwn options tree name t ∧
        ending.tree.read ((batchOutput options).child (documentName name)) = .ok t
  /-- If a later file has the same stem, there is the document of such a file. -/
  lost : ∀ name ∈ names, IsSuccess options tree name → Path.stemOf name ≠ summaryStem →
    IsOverwritten options tree names name →
      ∃ later ∈ names, Text.before name later = true ∧ Path.stemOf later = Path.stemOf name ∧
        ending.tree.fileAt? (outputLocation options (documentName name)) =
          sentOf? options tree later
  /-- Where no document is lost there are as many as there are successes. -/
  enough : (∀ name ∈ names, IsSuccess options tree name →
      Path.stemOf name ≠ summaryStem ∧ ¬ IsOverwritten options tree names name) →
    (Stats.ofReports (outcomes options tree names)).success ≤
      (documentFiles options ending.tree).length

theorem Ready.read_document (h : Ready options tree) (hfits : fits options name = true) {t : Text}
    (hfile : tree.fileAt? (outputLocation options (documentName name)) = some t) :
    tree.read ((batchOutput options).child (documentName name)) = .ok t := by
  have hjson : (".json" : Text) ∈ outputSuffixes := by decide
  have hup := (output_ne hjson (Path.stemOf name)).1
  have hadmits : admits options (documentName name) = true :=
    List.all_eq_true.mp hfits _ List.mem_cons_self
  rw [documentName, ← h.takes _ hjson, FileTree.takes_child h.output hup, Bool.and_eq_true,
    Bool.not_eq_true'] at hadmits
  exact (FileTree.read_child_eq_ok_iff h.output hup).mpr ⟨hadmits.1, hadmits.2, hfile⟩

theorem of_batch (hinput : tree.IsDir options.input)
    (hvacant : tree.Vacant (batchOutput options).location)
    (hmade : tree.makeDirs (batchOutput options) = .ok made) :
    (batch options tree).tree.dirs = made.dirs ∧ ∀ stem ≠ summaryStem,
      (batch options tree).tree.fileAt? (outputLocation options (stem ++ ".json")) =
        OrderedMap.last? (documentsSent options tree (sketchNames made options.input)) stem := by
  have hjson : (".json" : Text) ∈ outputSuffixes := by decide
  have hready := ready_of_makeDirs hinput hvacant hmade
  have hnames : ∀ name ∈ sketchNames made options.input, isSketchName name = true :=
    fun name hname => ((mem_sketchNames_iff hready.input).mp hname).1
  have hnew : ∀ output, made.fileAt? (outputLocation options output) = none := by
    intro output
    rw [FileTree.fileAt?, (FileTree.grows_makeDirs hmade).2, OrderedMap.get?_eq_none_iff]
    exact fun hmem => hvacant output (List.mem_append_right _ hmem)
  by_cases hnil : sketchNames made options.input = []
  · rw [batch_of_nil hmade hnil, hnil]
    exact ⟨rfl, fun stem _ => hnew _⟩
  · obtain ⟨reports, after, hruns, hconverts⟩ := hready.converts_batchFiles hnames
    have hafter : ∀ stem, after.fileAt? (outputLocation options (stem ++ ".json")) =
        OrderedMap.last? (documentsSent options tree (sketchNames made options.input)) stem := by
      intro stem
      rw [hconverts.documents, hnew, Option.or_none, documentsSent_makeDirs hinput hmade hnames]
    obtain ⟨hfails, hreturns⟩ := batch_of_names hmade hnil hruns
    cases htakes : after.takes (summaryPath options) with
    | false =>
      obtain ⟨message, hbatch⟩ := hfails htakes
      rw [hbatch]
      exact ⟨hconverts.dirs, fun stem _ => hafter stem⟩
    | true =>
      obtain ⟨rest, last, hwrite, hbatch⟩ := hreturns htakes
      have hfile := FileTree.fileAt?_write hwrite
      obtain ⟨-, -, rfl⟩ := FileTree.write_eq_ok hwrite
      rw [hbatch]
      refine ⟨hconverts.dirs, fun stem hstem => ?_⟩
      exact (hfile _).trans ((if_neg fun hsame => hstem (eq_summaryStem
        (hsame.trans (location_output hjson summaryStem)))).trans (hafter stem))

theorem mem_documentFiles (hstem : Path.stemOf name ≠ summaryStem) {t : Text}
    (hfile : after.fileAt? (outputLocation options (documentName name)) = some t) :
    outputLocation options (documentName name) ∈ documentFiles options after := by
  have hkey : outputLocation options (documentName name) ∈ after.files.keys := by
    by_contra hmem
    rw [FileTree.fileAt?, (OrderedMap.get?_eq_none_iff _ _).mpr hmem] at hfile
    cases hfile
  have hsummary : outputLocation options (documentName name) ≠
      outputLocation options summaryName := fun hsame => hstem (eq_summaryStem hsame)
  have hends : List.isSuffixOf ".json" (documentName name) = true :=
    List.isSuffixOf_iff_suffix.mpr (List.suffix_append _ _)
  refine List.mem_filter.mpr ⟨hkey, ?_⟩
  simp only [outputLocation, List.dropLast_concat, List.getLast?_concat, Option.getD_some, hends,
    decide_true, Bool.true_and, Bool.and_self]
  exact decide_eq_true hsummary

/-- Where no document is lost there are as many as there are successes. -/
theorem success_le_documentFiles (hsorted : names.Pairwise fun a b => Text.before a b = true)
    (hkept : ∀ name ∈ names, IsSuccess options tree name →
      Path.stemOf name ≠ summaryStem ∧ ¬ IsOverwritten options tree names name)
    (hleft : ∀ stem ≠ summaryStem, after.fileAt? (outputLocation options (stem ++ ".json")) =
      OrderedMap.last? (documentsSent options tree names) stem) :
    (Stats.ofReports (outcomes options tree names)).success ≤
      (documentFiles options after).length := by
  have hjson : (".json" : Text) ∈ outputSuffixes := by decide
  set winners := names.filter fun name =>
    (outcome options name (source options tree name)).isSuccess with hwinners
  have hmem : ∀ name ∈ winners, name ∈ names ∧ IsSuccess options tree name :=
    fun name hname => List.mem_filter.mp hname
  have hcount : (Stats.ofReports (outcomes options tree names)).success = winners.length := by
    rw [hwinners, ← List.countP_eq_length_filter]
    exact List.countP_map
  have hnodup : (winners.map fun name => outputLocation options (documentName name)).Nodup := by
    rw [List.Nodup, List.pairwise_map]
    refine (hsorted.filter _).imp_of_mem fun {a b} ha hb hbefore hsame => ?_
    obtain ⟨hamem, hasuccess⟩ := hmem a ha
    obtain ⟨hbmem, hbsuccess⟩ := hmem b hb
    obtain ⟨t, hown, -⟩ := hbsuccess.exists_writesOwn
    exact (hkept a hamem hasuccess).2 ⟨b, hbmem, hbefore,
      (output_inj hjson hjson (outputLocation_inj hsame)).1.symm, by rw [hown.sent]; rfl⟩
  have hsubset : (winners.map fun name => outputLocation options (documentName name)) ⊆
      documentFiles options after := by
    intro l hl
    obtain ⟨name, hname, rfl⟩ := List.mem_map.mp hl
    obtain ⟨hnames, hsuccess⟩ := hmem name hname
    obtain ⟨hstem, hnot⟩ := hkept name hnames hsuccess
    obtain ⟨t, hown, -⟩ := hsuccess.exists_writesOwn
    have hfile : after.fileAt? (outputLocation options (documentName name)) = some t :=
      (hleft _ hstem).trans (last?_of_not_isOverwritten hsorted hnames hown.sent hnot)
    exact mem_documentFiles hstem hfile
  rw [hcount, ← List.length_map (f := fun name => outputLocation options (documentName name))]
  exact (hnodup.subperm hsubset).length_le

/-- **What becomes of the documents of a directory.**  Those of successes are written, and they are
left unless they share a stem with a later file or with the summary. -/
theorem batch_delivers (hwell : tree.WellFormed) (hinput : tree.IsDir options.input)
    (hvacant : tree.Vacant (batchOutput options).location)
    (hmade : tree.makeDirs (batchOutput options) = .ok made) :
    Delivers options tree (sketchNames made options.input) (batch options tree) := by
  have hready := ready_of_makeDirs hinput hvacant hmade
  have hsorted : (sketchNames made options.input).Pairwise fun a b => Text.before a b = true :=
    pairwise_sketchNames (FileTree.nodup_locations_makeDirs hwell.nodup hmade)
  obtain ⟨hdirs, hleft⟩ := of_batch hinput hvacant hmade
  refine ⟨fun name _ hsuccess => ?_, hleft, fun hne hadmits => ?_,
    fun name hname hsuccess hstem hnot => ?_, fun name hname hsuccess hstem hover => ?_,
    fun hkept => success_le_documentFiles hsorted hkept hleft⟩
  · obtain ⟨t, hown, -⟩ := hsuccess.exists_writesOwn
    exact ⟨t, hown⟩
  · have hexit := (exit_batch_eq_zero_iff hinput hvacant hmade).mpr (Or.inr hadmits)
    exact ⟨hexit, read_summaryPath hinput hvacant hmade hne hexit⟩
  · obtain ⟨t, hown, hfits⟩ := hsuccess.exists_writesOwn
    refine ⟨t, hown, (hready.of_dirs_eq hdirs).read_document hfits ?_⟩
    exact (hleft _ hstem).trans (last?_of_not_isOverwritten hsorted hname hown.sent hnot)
  · obtain ⟨t, hown, -⟩ := hsuccess.exists_writesOwn
    obtain ⟨later, hlater, hbefore, hsame, hlast⟩ :=
      exists_last?_of_isOverwritten hsorted hname hown.sent hover
    exact ⟨later, hlater, hbefore, hsame, (hleft _ hstem).trans hlast⟩

/-- Two files share a stem, and the later one takes the place of the earlier one. -/
theorem batch_delivers_of_twins :
    let options : ConvertOptions :=
      ⟨⟨[], ["in"]⟩, some ⟨[], ["out"]⟩, true, some .mermaid, false, .none, false, false⟩
    let tree : FileTree := ⟨[["in"], ["out"]], [(["in", "a.sketch"], "A -> B"),
      (["in", "a.txt"], "C"), (["in", "b.txt"], "D")]⟩
    tree.WellFormed ∧ tree.IsDir options.input ∧ tree.Vacant (batchOutput options).location ∧
      tree.makeDirs (batchOutput options) = .ok tree ∧
      sketchNames tree options.input = (["a.sketch", "a.txt", "b.txt"] : List Text) ∧
      IsOverwritten options tree (sketchNames tree options.input) "a.sketch" ∧
      (∃ t, WritesOwn options tree "b.txt" t ∧
        (batch options tree).tree.read ((batchOutput options).child (documentName "b.txt")) = .ok t) ∧
      Delivers options tree (sketchNames tree options.input) (batch options tree) := by
  intro options tree
  have hwell : tree.WellFormed := ⟨by decide +kernel, by decide +kernel⟩
  have hinput : tree.IsDir options.input := ⟨by decide +kernel, by decide +kernel⟩
  have hvacant : tree.Vacant (batchOutput options).location := by
    intro name hmem
    have hnone : ∀ l ∈ tree.locations, l.dropLast ≠ (batchOutput options).location := by
      decide +kernel
    exact hnone _ hmem (List.dropLast_concat ..)
  have hmade : tree.makeDirs (batchOutput options) = .ok tree := by decide +kernel
  have hnames : sketchNames tree options.input = (["a.sketch", "a.txt", "b.txt"] : List Text) :=
    sketchNames_of_pairwise (by decide +kernel) (by decide +kernel)
  have hdelivers := batch_delivers hwell hinput hvacant hmade
  refine ⟨hwell, hinput, hvacant, hmade, hnames, ?_, ?_, hdelivers⟩
  · rw [hnames]
    exact ⟨"a.txt", by decide, by decide, by decide, by decide +kernel⟩
  · refine hdelivers.kept "b.txt" ?_ (by unfold IsSuccess; decide +kernel) (by decide) ?_
    · rw [hnames]
      decide
    · rw [hnames]
      rintro ⟨later, hmem, hbefore, -⟩
      revert hbefore
      revert later
      decide

/-- Three files are counted as successes, but only one document is left: of two files with one stem
the second one is, and the summary takes the place of the third. -/
theorem batch_of_shared_stems :
    let options : ConvertOptions :=
      ⟨⟨[], ["in"]⟩, some ⟨[], ["out"]⟩, true, none, false, .none, false, false⟩
    let tree : FileTree := ⟨[["in"]], [(["in", "a.sketch"], "A"), (["in", "a.txt"], "B"),
      (["in", "conversion_summary.txt"], "C")]⟩
    let made : FileTree := { tree with dirs := [["in"], ["out"]] }
    tree.makeDirs (batchOutput options) = .ok made ∧ (batch options tree).exit = 0 ∧
      Stats.ofReports (outcomes options tree (sketchNames made options.input)) = ⟨3, 3, 0, 0⟩ ∧
      documentFiles options (batch options tree).tree = ([["out", "a.json"]] : List Location) ∧
      (batch options tree).tree.fileAt? ["out", "a.json"] = sentOf? options tree "a.txt" ∧
      sentOf? options tree "a.txt" ≠ sentOf? options tree "a.sketch" ∧
      (batch options tree).tree.fileAt? ["out", "conversion_summary.json"] ≠
        sentOf? options tree "conversion_summary.txt" := by
  intro options tree made
  have hmade : tree.makeDirs (batchOutput options) = .ok made := by decide +kernel
  have hnames : sketchNames made options.input =
      (["a.sketch", "a.txt", "conversion_summary.txt"] : List Text) :=
    sketchNames_of_pairwise (by decide +kernel) (by decide +kernel)
  simp only [batch, hmade, hnames, true_and]
  decide +kernel

end Convert

end GraphSketch
