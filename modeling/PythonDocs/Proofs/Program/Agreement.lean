import PythonDocs.Proofs.Discovery.Defaults
import PythonDocs.Proofs.FileTree.Documents
import PythonDocs.Proofs.FileTree.ReadBack
import PythonDocs.Proofs.Symbol.RoundTrip

namespace PythonDocs

open Text (encode)

variable {σ τ : Type}

def ModuleName.alone (path : FilePath) : String :=
  ModuleName.seenFrom ((FilePath.parent? path).getD []) path

def FilePath.documentOf (output path : FilePath) : FilePath :=
  join output (ModuleName.alone path ++ ".md")

/-- Documents can be made at an output path, that of a file among them. -/
def FileTree.TakesDocument (tree : FileTree) (output path : FilePath) : Prop :=
  ∃ made, tree.createDirectories output = .ok made ∧
    made.TakesFile (FilePath.documentOf output path)

/-- The reference of a page has the headings of some symbols and their methods, in their order, each
with a text behind it. -/
def Page.Shows (page : Page) (symbols : List Symbol) : Prop :=
  ∃ texts, texts.length = (Symbol.headings symbols).length ∧
    page.render = page.readme ++ "\n" ++ diagramSection page.diagram ++
      Symbol.reference symbols texts ++ footer page.path

theorem Symbol.length_headings (symbols : List Symbol) :
    (headings symbols).length = (withMethods symbols).length := by
  simp [headings, withMethods]

theorem Service.page_shows (service : Service σ) (settings : OutputSettings) (module path : String)
    {found : ModuleSymbols} (flat : Symbol.AreFlat found.symbols) (state : σ) :
    (service.page settings module path found state).1.Shows found.symbols := by
  let counted := (0, (service.readme found.symbols module state).2)
  obtain ⟨-, -, described⟩ := Entry.buildAll_symbols (service.countedText settings) flat counted
  refine ⟨_, ?_, Page.render_eq described⟩
  rw [List.length_map, Symbol.length_headings]
  exact (Entry.Describes.withMethods described).length_eq.symm

namespace Plan

variable {plan : Plan} {tree made after : FileTree} {path output : FilePath} {state : σ}

theorem settings_of_ofSettings {settings : Settings}
    (accepted : ofSettings settings = .ok plan) : plan.settings = settings := by
  unfold ofSettings at accepted
  cases valid : settings.validate with
  | error problem => simp [valid, bind, Except.bind, Except.mapError] at accepted
  | ok _ =>
    cases compiled : Selection.ofSettings settings.analysis with
    | error problem => simp [valid, compiled, bind, Except.bind, Except.mapError] at accepted
    | ok selection =>
      simp only [valid, compiled, bind, Except.bind, Except.mapError, pure, Except.pure,
        Except.ok.injEq] at accepted
      rw [← accepted]

theorem runBase_file (file : tree.isFile path = true) (grows : tree.Grows made) :
    runBase made path = (FilePath.parent? path).getD [] := by
  obtain ⟨place, content, resolved, found⟩ := FileTree.isFile_iff.mp file
  exact if_pos (FileTree.isFile_iff.mpr
    ⟨place, content, grows.resolve resolved, grows.kept _ _ found⟩)

theorem fate_file (plan : Plan) (base : List Component) (file : tree.isFile path = true)
    (grows : tree.Grows made) :
    plan.fate base made [] path =
      match tree.symbols plan.settings.analysis.nested path with
      | .error failure => .skipped failure.message
      | .ok found => .documented found := by
  obtain ⟨place, content, resolved, found⟩ := FileTree.isFile_iff.mp file
  have read := FileTree.read_of_resolve resolved found
  have same : made.read path = tree.read path := (grows.read read).trans read.symm
  cases given : tree.symbols plan.settings.analysis.nested path <;>
    simp only [fate, List.lookup_nil, FileTree.symbols_congr same, given]

theorem run_file (plan : Plan) (service : Service σ) (file : tree.isFile path = true)
    (directories : tree.createDirectories output = .ok made) :
    plan.run service path output tree state =
      match plan.document service ((FilePath.parent? path).getD []) output path
        { tree := made, service := state } with
      | (some problem, last) => (.error (.os problem), last.tree, last.service)
      | (none, last) => (.ok last.report, last.tree, last.service) := by
  have present := FileTree.exists?_of_isFile file
  have base := runBase_file file (FileTree.createDirectories_grows directories)
  have discovered : tree.discover plan.selection path = .ok [path] := by
    rw [FileTree.discover, file]
    rfl
  simp only [run, present, discovered, directories, base, Bool.not_true, Bool.false_eq_true,
    ↓reduceIte, documentAll]
  cases plan.document service ((FilePath.parent? path).getD []) output path
      { tree := made, service := state } with
  | mk problem last => cases problem <;> rfl

theorem run_of_unreadable (plan : Plan) (service : Service σ) (file : tree.isFile path = true)
    (directories : tree.createDirectories output = .ok made) {failure : Failure}
    (unread : tree.symbols plan.settings.analysis.nested path = .error failure) (state : σ) :
    plan.run service path output tree state =
      (.ok { skipped := [(path, failure.message)] }, made, state) := by
  have fate := plan.fate_file ((FilePath.parent? path).getD []) file
    (FileTree.createDirectories_grows directories)
  rw [unread] at fate
  rw [run_file plan service file directories, document, fate]
  rfl

/-- A run over a file that can be read as a module documents it. -/
theorem run_of_readable (plan : Plan) (service : Service σ) (file : tree.isFile path = true)
    (writable : tree.TakesDocument output path) {found : ModuleSymbols}
    (read : tree.symbols plan.settings.analysis.nested path = .ok found) (state : σ) :
    ∃ after final, ∃ page : Page, plan.run service path output tree state =
        (.ok { outputs := [FilePath.documentOf output path]
               symbols := (Symbol.withMethods found.symbols).length }, after, final) ∧
      after.read (FilePath.documentOf output path) = .ok (encode page.render.toList) ∧
      page.Shows found.symbols := by
  obtain ⟨made, directories, takes⟩ := writable
  have fate := plan.fate_file ((FilePath.parent? path).getD []) file
    (FileTree.createDirectories_grows directories)
  rw [read] at fate
  let start : Progress σ := { tree := made, service := state }
  let page := plan.page service ((FilePath.parent? path).getD []) ⟨path, found⟩ state
  obtain ⟨after, written, readBack⟩ := takes.write (encode page.1.render.toList)
  have done : plan.document service ((FilePath.parent? path).getD []) output path start =
      (none, _) := document_of_step (.document fate written)
  have size : (plan.page service ((FilePath.parent? path).getD []) ⟨path, found⟩ state).2.1 =
      SourceModule.size ⟨path, found⟩ := page_size ⟨path, found⟩ read state
  refine ⟨after, page.2.2, page.1, ?_, readBack ?_, ?_⟩
  · rw [run_file plan service file directories, done]
    simp only [size, Report.addPage, start, List.nil_append, Nat.zero_add]
    rfl
  · have name : IsFileName (ModuleName.alone path ++ ".md") := ModuleName.isFileName_alone path
    rw [FilePath.documentOf, FileTree.join_document]
    exact FilePath.below_ne_empty output (List.cons_ne_nil _ _) (by simpa using name)
  · exact service.page_shows plan.settings.output _ _ (FileTree.flat_of_symbols read) state

end Plan

theorem FileTree.symbolsText_file {config : Option FilePath} {settings : Settings} {tree : FileTree}
    {path : FilePath} (file : tree.isFile path = true)
    (chosen : tree.chosenSettings config = .ok settings) :
    tree.symbolsText path config =
      (tree.symbols settings.analysis.nested path).map fun found => found.toJson.pretty ++ "\n" := by
  simp only [symbolsText, chosen, file, bind, Except.bind, ↓reduceIte]
  cases tree.symbols settings.analysis.nested path <;> rfl

/-- The symbols of a file are printed unless a run over the file skips it, for the reason that the
command gives. The document of a run has the headings of the printed symbols. -/
theorem symbols_agree_with_run {tree : FileTree} {path output : FilePath}
    {config : Option FilePath} {settings : Settings} {plan : Plan}
    (file : tree.isFile path = true) (chosen : tree.chosenSettings config = .ok settings)
    (accepted : Plan.ofSettings settings = .ok plan) (writable : tree.TakesDocument output path)
    (environment : Environment) (network : Network τ) (net : τ) (service : Service σ) (state : σ) :
    let told := (Command.symbols path config).run environment network tree net
    (∀ text, (∃ failure, told.result = .error failure ∧ failure.message = text) ↔
      ∃ after final, plan.run service path output tree state =
        (.ok { skipped := [(path, text)] }, after, final)) ∧
    (told.result = .ok () → ∃ found after final, ∃ page : Page,
      ModuleSymbols.ofText? told.output = some found ∧
      plan.run service path output tree state =
        (.ok { outputs := [FilePath.documentOf output path]
               symbols := (Symbol.withMethods found.symbols).length }, after, final) ∧
      after.read (FilePath.documentOf output path) = .ok (encode page.render.toList) ∧
      page.Shows found.symbols) := by
  obtain rfl := Plan.settings_of_ofSettings accepted
  have printed := FileTree.symbolsText_file file chosen
  intro told
  cases read : tree.symbols plan.settings.analysis.nested path with
  | error failure =>
    rw [read] at printed
    have ended : told.result = .error failure := by
      simp [told, Command.run, Command.runWith, printed, Except.map]
    obtain ⟨made, directories, -⟩ := writable
    have ran := plan.run_of_unreadable service file directories read state
    refine ⟨fun text => ?_, fun succeeded => ?_⟩
    · rw [ended, ran]
      constructor
      · rintro ⟨_, ⟨⟩, rfl⟩
        exact ⟨made, state, rfl⟩
      · rintro ⟨after, final, same⟩
        have reason : failure.message = text := by simpa using congrArg Prod.fst same
        exact ⟨failure, rfl, reason⟩
    · rw [ended] at succeeded
      cases succeeded
  | ok found =>
    rw [read] at printed
    have ended : told.result = .ok () ∧ told.output = found.toJson.pretty ++ "\n" := by
      simp [told, Command.run, Command.runWith, printed, Except.map]
    obtain ⟨after, final, page, ran, document, shows⟩ :=
      plan.run_of_readable service file writable read state
    refine ⟨fun text => ?_, fun _ => ⟨found, after, final, page, ?_, ran, document, shows⟩⟩
    · rw [ended.1, ran]
      constructor
      · rintro ⟨_, ⟨⟩, _⟩
      · rintro ⟨_, _, same⟩
        simp at same
    · rw [ended.2]
      exact ModuleSymbols.ofText?_of_read (FileTree.flat_of_symbols read)
        (Json.read?_pretty found.isTextual_toJson).2

/-- A file that is documented, and one that is skipped. -/
theorem symbols_agree_in_collidingTree :
    collidingTree.isFile "p/a/__init__.py" = true ∧ collidingTree.isFile "p/b.py" = true ∧
      collidingTree.chosenSettings none = .ok {} ∧ ∃ plan, Plan.ofSettings {} = .ok plan ∧
      collidingTree.TakesDocument "o" "p/a/__init__.py" ∧
      collidingTree.TakesDocument "o" "p/b.py" ∧
      (∃ found after final, ∃ page : Page,
        ModuleSymbols.ofText? ((Command.symbols "p/a/__init__.py" none).run [] .closed
          collidingTree ()).output = some found ∧
        plan.run unsteady "p/a/__init__.py" "o" collidingTree true =
          (.ok { outputs := ["o/__init__.md"]
                 symbols := (Symbol.withMethods found.symbols).length }, after, final) ∧
        after.read "o/__init__.md" = .ok (encode page.render.toList) ∧
        page.Shows found.symbols) ∧
      ∃ failure after final,
        ((Command.symbols "p/b.py" none).run [] .closed collidingTree ()).result =
          .error failure ∧
        plan.run unsteady "p/b.py" "o" collidingTree true =
          (.ok { skipped := [("p/b.py", failure.message)] }, after, final) := by
  have file : collidingTree.isFile "p/a/__init__.py" = true := by decide +kernel
  have broken : collidingTree.isFile "p/b.py" = true := by decide +kernel
  have chosen : collidingTree.chosenSettings none = .ok {} := by decide +kernel
  have directories : collidingTree.createDirectories "o" =
      .ok (collidingTree.put ["o"] .directory) := by decide +kernel
  have first : collidingTree.TakesDocument "o" "p/a/__init__.py" :=
    ⟨_, directories, ["o", "__init__.md"], by decide +kernel, .inl (by decide +kernel)⟩
  have second : collidingTree.TakesDocument "o" "p/b.py" :=
    ⟨_, directories, ["o", "b.md"], by decide +kernel, .inl (by decide +kernel)⟩
  have target : FilePath.documentOf "o" "p/a/__init__.py" = "o/__init__.md" := by decide +kernel
  have succeeds : ((Command.symbols "p/a/__init__.py" none).run [] .closed collidingTree
      ()).result = .ok () := by decide +kernel
  have fails : ((Command.symbols "p/b.py" none).run [] .closed collidingTree
      ()).result.toOption = none := by decide +kernel
  have told := (symbols_agree_with_run file chosen Plan.ofSettings_default first [] .closed ()
    unsteady true).2 succeeds
  have skips := (symbols_agree_with_run broken chosen Plan.ofSettings_default second [] .closed ()
    unsteady true).1
  rw [target] at told
  refine ⟨file, broken, chosen, _, Plan.ofSettings_default, first, second, told, ?_⟩
  cases given : ((Command.symbols "p/b.py" none).run [] .closed collidingTree ()).result with
  | ok _ =>
    rw [given] at fails
    cases fails
  | error failure =>
    obtain ⟨after, final, ran⟩ := (skips failure.message).mp ⟨failure, given, rfl⟩
    exact ⟨failure, after, final, rfl, ran⟩

end PythonDocs
