import GraphSketch.Proofs.Cli.Shell
import GraphSketch.Proofs.Numbering.Growth
import GraphSketch.Proofs.Numbering.Saved
import GraphSketch.Proofs.Picture.Render
import GraphSketch.Proofs.Sketch.Drawing
import GraphSketch.Proofs.Sketch.Normalize

/-!
# What a conversion leaves behind

A conversion that ends well has compiled the text of its input with the numbering that was loaded,
and has written the document of the diagram and the numbering after it (`of_returns_single`).
Where code is asked for too, it stands beside the document (`of_returns_store_emit`).

* `Convert.Holds` — a file holds a value, as `Json.read` reads it.  What a program writes of a
  value is read back (`holds_of_returns_writeJson`), and stays while other files are written
  (`Holds.of_grows`, `Holds.of_find?_eq`).
* `Convert.Shows` — a document shows a diagram, with the effects of commands that were run on it
  (`document_eq_ok`).
* `returns_loadNumbering` — a numbering is loaded as it was saved, so one run goes on where
  another one has ended.

Each step of the program has an equation or an inversion of its own, in the order of its text;
`of_returns_single` puts them together.
-/

set_option autoImplicit false

namespace GraphSketch

/-- The commands that are run. -/
def ConvertOptions.requests (options : ConvertOptions) (diagram : Diagram) : List Request :=
  if options.runCommands then diagram.commands.map (·.request) else []

/-- The file to which the document goes. -/
def ConvertOptions.outputPath? (options : ConvertOptions) : Option Path :=
  options.output <|> options.input.withSuffix? ".json"

namespace Convert

variable {options : ConvertOptions} {tree after : FileTree}

/-! ## Values in files -/

/-- A file holds a value. -/
def Holds (tree : FileTree) (path : Path) (v : Json) : Prop :=
  ∃ raw, tree.read path = .ok raw ∧ Json.read (Sketch.unifyLineEnds raw) = .ok v

theorem Holds.of_find?_eq {path other : Path} {v : Json} (h : Holds tree path v)
    (hfind : after.find? other = tree.find? path) : Holds after other v := by
  obtain ⟨raw, hread, hvalue⟩ := h
  refine ⟨raw, FileTree.find?_eq_file_iff.mp ?_, hvalue⟩
  rw [hfind, FileTree.find?_eq_file_iff.mpr hread]

theorem Holds.of_grows {path : Path} {v : Json} (h : Holds tree path v) (hgrows : tree.Grows after)
    (hsame : after.fileAt? path.location = tree.fileAt? path.location) : Holds after path v :=
  h.imp fun _ h => ⟨hgrows.read_eq_ok h.1 hsame, h.2⟩

theorem holds_of_read_pretty {path : Path} {v : Json} (hfits : Json.FitsIn Json.depthLimit v)
    (hwritable : v.isWritable = true) (h : tree.read path = .ok v.pretty) : Holds tree path v := by
  refine ⟨_, h, ?_⟩
  rw [Sketch.unifyLineEnds_of_notMem (Json.return_notMem_pretty hfits)]
  exact Json.read_pretty hfits hwritable

theorem holds_of_returns_writeJson {path : Path} {v : Json} {u : Unit}
    (hfits : Json.FitsIn Json.depthLimit v) (h : Returns (writeJson path v) tree u after) :
    Holds after path v ∧ tree.Grows after ∧
      ∀ l ≠ path.location, after.fileAt? l = tree.fileAt? l := by
  obtain ⟨hwritable, hwrite⟩ := returns_writeJson_iff.mp h
  refine ⟨holds_of_read_pretty hfits hwritable (FileTree.read_write hwrite),
    FileTree.grows_write hwrite, fun l hl => ?_⟩
  rw [FileTree.fileAt?_write hwrite, if_neg hl]

/-! ## The document -/

/-- A document shows a diagram, with the effects of some commands on it. -/
structure Shows (title : Text) (requests : List Request) (diagram : Diagram)
    (document : Document) : Prop where
  /-- Nothing has been changed but by commands. -/
  changed : Document.Changed (Document.ofDiagram title none diagram) document
  /-- The nodes are as the commands leave them. -/
  nodes : document.get? "nodes" =
    (Document.sink.executeAll diagram.nodes ([], Document.ofDiagram title none diagram)
      requests).1.2.get? "nodes"
  /-- Without commands it is the document of the diagram. -/
  plain : requests = [] → document = Document.ofDiagram title none diagram

variable {title : Text} {requests : List Request} {diagram : Diagram}

theorem shows_ofDiagram (title : Text) (diagram : Diagram) :
    Shows title [] diagram (Document.ofDiagram title none diagram) :=
  ⟨Document.Changed.refl _, rfl, fun _ => rfl⟩

theorem ranDocument_eq_ok {nodes : List Node} {document ran : Document}
    (h : ranDocument nodes requests document = .ok ran) :
    ∃ actions executed results,
      Document.sink.executeAll nodes ([], document) requests = ((actions, executed), .ok results) ∧
      ran = OrderedMap.put executed "actions" (.arr (actions.map Action.toJson)) := by
  unfold ranDocument at h
  split at h
  · cases h
  · rename_i actions executed results hrun
    exact ⟨actions, executed, results, hrun, (Except.ok.inj h).symm⟩

/-- A document on which commands have been run shows their effects. -/
theorem shows_of_ranDocument {ran : Document} (hsome : requests ≠ [])
    (h : ranDocument diagram.nodes requests (Document.ofDiagram title none diagram) = .ok ran) :
    Shows title requests diagram ran ∧ ran.Fits := by
  obtain ⟨actions, executed, results, hexecute, rfl⟩ := ranDocument_eq_ok h
  have hchanged := Document.changed_executeAll (Document.ofDiagram title none diagram)
    diagram.nodes requests
  have hfits := Document.fits_executeAll (Document.fits_ofDiagram title none diagram)
    diagram.nodes requests
  rw [hexecute] at hchanged hfits
  refine ⟨⟨?_, ?_, fun hnone => absurd hnone hsome⟩,
    Document.fits_put_actions hfits "actions" actions⟩
  · exact hchanged.trans (Document.changed_put executed (Or.inr rfl) _)
  · rw [hexecute]
    exact OrderedMap.get?_put_of_ne _ _ (by decide)

theorem requests_cases (options : ConvertOptions) (diagram : Diagram) :
    (options.runCommands && !diagram.commands.isEmpty) = true ∧
        options.requests diagram = diagram.commands.map (·.request) ∧
        options.requests diagram ≠ [] ∨
      (options.runCommands && !diagram.commands.isEmpty) = false ∧
        options.requests diagram = [] := by
  unfold ConvertOptions.requests
  cases options.runCommands <;> cases diagram.commands <;> simp

/-- The document of a sketch is that of its diagram, or has had the commands run on it. -/
theorem document_cases {numbering numbering' : Numbering} {text : Text} {written : Document}
    (h : document options numbering title text = .ok (diagram, written, numbering')) :
    Sketch.compile ⟨true, options.strict⟩ numbering text = (.ok diagram, numbering') ∧
      (options.requests diagram = [] ∧ written = Document.ofDiagram title none diagram ∨
        options.requests diagram ≠ [] ∧
          ranDocument diagram.nodes (options.requests diagram)
            (Document.ofDiagram title none diagram) = .ok written) := by
  unfold document at h
  split at h
  · cases h
  · rename_i d m hcompile
    rcases requests_cases options d with ⟨hrun, hrequests, hsome⟩ | ⟨hrun, hrequests⟩
    · simp only [hrun, if_true, ← hrequests] at h
      cases hran : ranDocument d.nodes (options.requests d) (Document.ofDiagram title none d) with
      | error fault => rw [hran] at h; cases h
      | ok ran =>
        rw [hran] at h
        cases h
        exact ⟨hcompile, Or.inr ⟨hsome, hran⟩⟩
    · simp only [hrun, Bool.false_eq_true, if_false] at h
      cases h
      exact ⟨hcompile, Or.inl ⟨hrequests, rfl⟩⟩

/-- **The document of a sketch** shows the diagram to which the sketch compiles. -/
theorem document_eq_ok {numbering numbering' : Numbering} {text : Text} {written : Document}
    (h : document options numbering title text = .ok (diagram, written, numbering')) :
    Sketch.compile ⟨true, options.strict⟩ numbering text = (.ok diagram, numbering') ∧
      Shows title (options.requests diagram) diagram written ∧ written.Fits := by
  obtain ⟨hcompile, ⟨hnone, rfl⟩ | ⟨hsome, hran⟩⟩ := document_cases h
  · exact ⟨hcompile, hnone ▸ shows_ofDiagram title diagram,
      Document.fits_ofDiagram title none diagram⟩
  · exact ⟨hcompile, shows_of_ranDocument hsome hran⟩

theorem Shows.emit {document written : Document} {format : Format} {code : Text}
    (h : Shows title requests diagram document)
    (hemit : document.emit format = (.ok code, written)) :
    Shows title requests diagram written := by
  refine ⟨h.changed.trans (Document.changed_emit hemit), ?_, fun hnone => ?_⟩
  · rw [← h.nodes]
    rcases Document.emit_eq_ok hemit with ⟨-, rfl⟩ | ⟨kind, -, -, rfl, -⟩
    · rfl
    · exact Document.get?_addWarning_of_ne (by decide) _
  · obtain rfl := h.plain hnone
    exact Document.emit_of_no_layout (Document.get?_layout_ofDiagram title none diagram) hemit

/-! ## Steps of a conversion -/

theorem of_returns_makeDirs {path : Path} {u : Unit}
    (h : Returns (change fun tree => tree.makeDirs path) tree u after) :
    tree.Grows after ∧ after.files = tree.files :=
  FileTree.grows_makeDirs (returns_change_iff.mp h)

/-- Code is written to the path with the suffix of its language. -/
theorem of_returns_writeCode {format : Format} {output : Path} {document written : Document}
    (h : Returns (writeCode format output document) tree written after) :
    ∃ side code, output.withSuffix? format.suffix = some side ∧
      document.emit format = (.ok code, written) ∧ tree.write side code = .ok after := by
  unfold writeCode at h
  obtain ⟨side, _, hpath, hrest⟩ := returns_bind_iff.mp h
  obtain ⟨hside, rfl⟩ := returns_withSuffix_iff.mp hpath
  dsimp only at hrest
  split at hrest
  · obtain ⟨_, _, hthrow, -⟩ := returns_bind_iff.mp hrest
    exact absurd hthrow not_returns_throw
  · split at hrest
    · exact absurd hrest not_returns_throw
    · rename_i code emitted hemit
      obtain ⟨_, _, hwrite, hlast⟩ := returns_bind_iff.mp hrest
      obtain ⟨rfl, rfl⟩ := returns_pure_iff.mp hlast
      exact ⟨side, code, hside, hemit, returns_writeText_iff.mp hwrite⟩

/-- A document that is stored is in its file, or that with the warning of its code is. -/
theorem of_returns_store {emit : Option Format} {output : Path} {document : Document} {u : Unit}
    (hfits : document.Fits) (h : Returns (store emit output document) tree u after) :
    ∃ written : Document,
      (written = document ∨ ∃ format code, document.emit format = (.ok code, written)) ∧
      Holds after output (.obj written) := by
  unfold store at h
  obtain ⟨_, made, -, h⟩ := returns_bind_iff.mp h
  cases emit with
  | none =>
    obtain ⟨_, _, hdocument, h⟩ := returns_bind_iff.mp h
    obtain ⟨rfl, rfl⟩ := returns_pure_iff.mp hdocument
    exact ⟨_, Or.inl rfl, (holds_of_returns_writeJson (hfits.mono (by decide)) h).1⟩
  | some format =>
    obtain ⟨written, _, hcode, h⟩ := returns_bind_iff.mp h
    obtain ⟨-, code, -, hemit, -⟩ := of_returns_writeCode hcode
    have hwritten : written.Fits := Document.fits_emit hfits hemit
    exact ⟨written, Or.inr ⟨format, code, hemit⟩,
      (holds_of_returns_writeJson (hwritten.mono (by decide)) h).1⟩

/-- A document that is stored with its code is in its file, and the code is beside it. -/
theorem of_returns_store_emit {format : Format} {output side : Path} {document : Document}
    {u : Unit} (hside : output.withSuffix? format.suffix = some side)
    (hapart : side.location ≠ output.location)
    (h : Returns (store (some format) output document) tree u after) :
    ∃ code written, document.emit format = (.ok code, written) ∧ after.read side = .ok code ∧
      Json.isWritable (.obj written) = true ∧
      after.read output = .ok (Json.pretty (.obj written)) := by
  unfold store at h
  obtain ⟨_, made, -, h⟩ := returns_bind_iff.mp h
  obtain ⟨written, middle, hcode, h⟩ := returns_bind_iff.mp h
  obtain ⟨path, code, hpath, hemit, hwrite⟩ := of_returns_writeCode hcode
  obtain rfl : side = path := Option.some.inj (hside.symm.trans hpath)
  obtain ⟨hwritable, hjson⟩ := returns_writeJson_iff.mp h
  refine ⟨code, written, hemit, ?_, hwritable, FileTree.read_write hjson⟩
  refine (FileTree.grows_write hjson).read_eq_ok (FileTree.read_write hwrite) ?_
  rw [FileTree.fileAt?_write hjson, if_neg hapart]

/-- A file that is converted has been read, and the document of its text has been stored. -/
theorem of_returns_file_store {numbering numbering' : Numbering}
    (h : Returns (file options numbering options.input options.output) tree
      (diagram, numbering') after) :
    ∃ text output built, tree.read options.input = .ok text ∧
      options.outputPath? = some output ∧
      document options numbering options.input.stem (Sketch.unifyLineEnds text) =
        .ok (diagram, built, numbering') ∧
      Returns (store options.emit output built) tree () after := by
  unfold file at h
  obtain ⟨_, start, htext, hrest⟩ := returns_bind_iff.mp h
  obtain ⟨⟨text, hread, rfl⟩, rfl⟩ := returns_readText_iff.mp htext
  rcases hdocument : document options numbering options.input.stem (Sketch.unifyLineEnds text) with
    fault | ⟨d, built, later⟩
  · simp only [hdocument] at hrest
    split at hrest
    all_goals
      obtain ⟨_, _, -, hthrow⟩ := returns_bind_iff.mp hrest
      exact absurd hthrow not_returns_throw
  · have hstored : ∃ output, options.outputPath? = some output ∧
        Returns (do store options.emit output built; pure (d, later)) start
          (diagram, numbering') after := by
      simp only [hdocument] at hrest
      unfold ConvertOptions.outputPath?
      cases houtput : options.output with
      | none =>
        rw [houtput] at hrest
        obtain ⟨output, _, hjson, hlast⟩ := returns_bind_iff.mp hrest
        obtain ⟨hpath, rfl⟩ := returns_withSuffix_iff.mp hjson
        exact ⟨output, hpath, hlast⟩
      | some output =>
        rw [houtput] at hrest
        obtain ⟨_, _, hpath, hlast⟩ := returns_bind_iff.mp hrest
        obtain ⟨rfl, rfl⟩ := returns_pure_iff.mp hpath
        exact ⟨_, rfl, hlast⟩
    obtain ⟨output, houtput, hlast⟩ := hstored
    obtain ⟨_, _, hstore, hpure⟩ := returns_bind_iff.mp hlast
    obtain ⟨hsame, rfl⟩ := returns_pure_iff.mp hpure
    obtain ⟨rfl, rfl⟩ := Prod.mk.inj hsame
    exact ⟨text, output, built, hread, houtput, hdocument, hstore⟩

/-- **A file that is converted** has been compiled, and its document shows the diagram. -/
theorem of_returns_file {numbering numbering' : Numbering}
    (h : Returns (file options numbering options.input options.output) tree
      (diagram, numbering') after) :
    ∃ text output written, tree.read options.input = .ok text ∧
      options.outputPath? = some output ∧
      Sketch.compile ⟨true, options.strict⟩ numbering text = (.ok diagram, numbering') ∧
      Holds after output (.obj written) ∧
      Shows options.input.stem (options.requests diagram) diagram written := by
  obtain ⟨text, output, built, hread, houtput, hdocument, hstore⟩ := of_returns_file_store h
  obtain ⟨hcompile, hshows, hfits⟩ := document_eq_ok hdocument
  rw [Sketch.compile_unifyLineEnds] at hcompile
  obtain ⟨written, hwritten, hholds⟩ := of_returns_store hfits hstore
  refine ⟨text, output, written, hread, houtput, hcompile, hholds, ?_⟩
  rcases hwritten with rfl | ⟨format, code, hemit⟩
  · exact hshows
  · exact hshows.emit hemit

/-! ## The numbering in a file -/

variable {ids : Path} {m : Numbering}

/-- **A numbering is loaded as it was saved.** -/
theorem returns_loadNumbering (hids : options.ids = .named ids) (hkept : options.clearIds = false)
    (hm : m.Sound) (hnext : 0 < m.next) (h : Holds tree ids m.toJson) :
    Returns (loadNumbering options) tree m tree := by
  obtain ⟨raw, hread, hvalue⟩ := h
  unfold loadNumbering
  rw [hids, hkept]
  refine returns_bind_iff.mpr ⟨tree, tree, returns_get_iff.mpr ⟨rfl, rfl⟩, ?_⟩
  rw [FileTree.find?_eq_file_iff.mpr hread]
  refine returns_bind_iff.mpr ⟨_, tree, returns_readText_iff.mpr ⟨⟨raw, hread, rfl⟩, rfl⟩, ?_⟩
  rw [hvalue]
  dsimp only
  rw [Numbering.ofJson_toJson_self hm hnext]
  exact returns_pure_iff.mpr ⟨rfl, rfl⟩

theorem returns_loadNumbering_of_none (hids : options.ids = .named ids)
    (hkept : options.clearIds = false) (h : tree.find? ids = .ok none) :
    Returns (loadNumbering options) tree Numbering.empty tree := by
  unfold loadNumbering
  rw [hids, hkept]
  refine returns_bind_iff.mpr ⟨tree, tree, returns_get_iff.mpr ⟨rfl, rfl⟩, ?_⟩
  rw [h]
  exact returns_pure_iff.mpr ⟨rfl, rfl⟩

theorem readsOnly_loadNumbering (options : ConvertOptions) : ReadsOnly (loadNumbering options) := by
  unfold loadNumbering
  split
  · exact readsOnly_pure _
  · exact readsOnly_pure _
  · exact readsOnly_throw _
  · refine readsOnly_get.bind fun tree => ?_
    split
    · exact readsOnly_throw _
    · exact readsOnly_pure _
    · refine (readsOnly_readText _).bind fun text => ?_
      split
      · exact readsOnly_throw _
      · split
        · exact readsOnly_throw _
        · exact readsOnly_pure _

theorem of_returns_loadNumbering (h : Returns (loadNumbering options) tree m after) :
    after = tree := (readsOnly_loadNumbering options).eq_of_returns h

/-- A numbering that is written is written as a value, once its directory is there. -/
theorem of_returns_writeNumbering {u : Unit} (h : Returns (writeNumbering ids m) tree u after) :
    ∃ made, tree.Grows made ∧ made.files = tree.files ∧
      Returns (writeJson ids m.toJson) made u after := by
  unfold writeNumbering at h
  obtain ⟨_, made, hmake, hrest⟩ := returns_bind_iff.mp h
  obtain ⟨hgrows, hfiles⟩ := of_returns_makeDirs hmake
  split at hrest
  · exact ⟨made, hgrows, hfiles, hrest⟩
  · obtain ⟨_, _, -, hthrow⟩ := returns_bind_iff.mp hrest
    exact absurd hthrow not_returns_throw

/-- A numbering that is saved is what its file holds; other files hold what they held. -/
theorem of_returns_saveNumbering {u : Unit} (hids : options.ids = .named ids) (hm : m.Sound)
    (h : Returns (saveNumbering options m) tree u after) :
    Holds after ids m.toJson ∧ tree.Grows after ∧
      ∀ l ≠ ids.location, after.fileAt? l = tree.fileAt? l := by
  unfold saveNumbering at h
  rw [hids] at h
  obtain ⟨made, hgrows, hfiles, hwrite⟩ := of_returns_writeNumbering h
  obtain ⟨hholds, hgrows', hother⟩ :=
    holds_of_returns_writeJson ((Numbering.toJson_fitsIn hm).mono (by decide)) hwrite
  refine ⟨hholds, hgrows.trans hgrows', fun l hl => ?_⟩
  rw [hother l hl, FileTree.fileAt?, hfiles, FileTree.fileAt?]

/-- Whatever a numbering is, files but its own can be read as before it was saved. -/
theorem read_of_returns_saveNumbering {u : Unit} {path : Path} {t : Text}
    (h : Returns (saveNumbering options m) tree u after) (hread : tree.read path = .ok t)
    (hapart : ∀ ids, options.ids.path? = some ids → path.location ≠ ids.location) :
    after.read path = .ok t := by
  unfold saveNumbering at h
  split at h
  · rw [(returns_pure_iff.mp h).2]
    exact hread
  · rename_i ids hids
    obtain ⟨made, hgrows, hfiles, hwrite⟩ := of_returns_writeNumbering h
    obtain ⟨-, hjson⟩ := returns_writeJson_iff.mp hwrite
    refine (hgrows.trans (FileTree.grows_write hjson)).read_eq_ok hread ?_
    rw [FileTree.fileAt?_write hjson, if_neg (hapart ids hids), FileTree.fileAt?, hfiles,
      FileTree.fileAt?]

/-! ## One sketch -/

/-- **A conversion that ends well** has compiled its input with the numbering that was loaded, and
has left the document of the diagram and the numbering after it. -/
theorem of_returns_single (hids : options.ids = .named ids)
    (hapart : ∀ output, options.outputPath? = some output → output.location ≠ ids.location)
    (hm : m.Sound) (hload : Returns (loadNumbering options) tree m tree)
    (h : Returns (single options) tree diagram after) :
    ∃ text later, tree.read options.input = .ok text ∧
      Sketch.compile ⟨true, options.strict⟩ m text = (.ok diagram, later) ∧
      (∃ output written, options.outputPath? = some output ∧ Holds after output (.obj written) ∧
        Shows options.input.stem (options.requests diagram) diagram written) ∧
      Holds after ids later.toJson := by
  unfold single at h
  obtain ⟨loaded, _, hloaded, hrest⟩ := returns_bind_iff.mp h
  obtain ⟨rfl, rfl⟩ := hload.unique hloaded
  obtain ⟨⟨d, later⟩, middle, hfile, hlast⟩ := returns_bind_iff.mp hrest
  obtain ⟨_, _, hsave, hpure⟩ := returns_bind_iff.mp hlast
  obtain ⟨rfl, rfl⟩ := returns_pure_iff.mp hpure
  obtain ⟨text, output, written, hread, houtput, hcompile, hholds, hshows⟩ := of_returns_file hfile
  have hlater : later.Sound := by
    have := Sketch.compile_sound hm ⟨true, options.strict⟩ text
    rwa [hcompile] at this
  obtain ⟨hsaved, hgrows, hother⟩ := of_returns_saveNumbering hids hlater hsave
  exact ⟨text, later, hread, hcompile, ⟨output, written, houtput,
    hholds.of_grows hgrows (hother _ (hapart output houtput)), hshows⟩, hsaved⟩

theorem exists_returns_single {commandLine : List Text} {arguments : Arguments}
    (hreads : grammar.read commandLine = .ok arguments)
    (hsingle : (optionsOf arguments).batch = false) (hexit : (run commandLine tree).exit = 0) :
    ∃ diagram, Returns (single (optionsOf arguments)) tree diagram (run commandLine tree).tree := by
  have hrun : run commandLine tree = runWith (optionsOf arguments) tree := by
    rw [run, hreads]
  rw [hrun] at hexit ⊢
  unfold runWith at hexit ⊢
  simp only [hsingle, Bool.false_eq_true, if_false] at hexit ⊢
  cases hfile : tree.isFile (optionsOf arguments).input with
  | error fault => rw [hfile] at hexit; cases hexit
  | ok found =>
    cases found with
    | false => rw [hfile] at hexit; cases hexit
    | true =>
      rw [hfile] at hexit
      rcases hconvert : (single (optionsOf arguments)).run.run tree with ⟨fault | diagram, last⟩
      · simp only [hconvert] at hexit
        cases hexit
      · exact ⟨diagram, by rw [Returns, hconvert]; rfl⟩

end Convert

end GraphSketch
