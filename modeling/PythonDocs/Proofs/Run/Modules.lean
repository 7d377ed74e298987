import PythonDocs.Proofs.Discovery.Complete
import PythonDocs.Proofs.Run.Accounts
import PythonDocs.Proofs.Service.Log

namespace PythonDocs

open FilePath (below)
open Text (encode)

variable {σ : Type}

namespace Plan

structure Covers (plan : Plan) (tree : FileTree) (root : FilePath) (report : Report)
    (path : FilePath) : Prop where
  discovered : ∃ files, tree.discover plan.selection root = .ok files ∧ path ∈ files
  kept : ∀ entry ∈ report.skipped, entry.1 ≠ path

/-- An earlier file has the same module name and can be read as a module. -/
def IsForestalled (plan : Plan) (tree : FileTree) (root path : FilePath) : Prop :=
  ∃ files, tree.discover plan.selection root = .ok files ∧ ∃ earlier ∈ files,
    FilePath.isLess earlier path = true ∧
    ModuleName.below root earlier = ModuleName.below root path ∧
    ∃ found, tree.symbols plan.settings.analysis.nested earlier = .ok found

/-- A file with these names below a root and this content is a source that can be documented. -/
structure Accepts (plan : Plan) (names : List String) (content : Text.Bytes) : Prop where
  source : isSourceName names = true
  wanted : plan.selection.wants (Text.join "/" names) = true
  readable : ∃ text outline found, Text.decode? content = some text ∧
    Outline.read (.ofList text) = .ok outline ∧
    outline.symbols plan.settings.analysis.nested = .ok found

end Plan

theorem FileTree.symbols_of_read {tree : FileTree} {path : FilePath} {content : Text.Bytes}
    (read : tree.read path = .ok content) (nested : NestedFunctions) :
    (∃ found, tree.symbols nested path = .ok found) ↔
      ∃ text outline found, Text.decode? content = some text ∧
        Outline.read (.ofList text) = .ok outline ∧ outline.symbols nested = .ok found := by
  simp only [symbols, outline, readText, read, Outline.ofSource, bind, Except.bind]
  cases decoded : Text.decode? content with
  | none => simp [Except.mapError]
  | some text =>
    cases parsed : Outline.read (.ofList text) with
    | error place => simp [Except.mapError, parsed]
    | ok outline =>
      cases walked : outline.symbols nested <;> simp [Except.mapError, parsed, walked]

theorem Ledger.documented_iff_kept {ledger : Ledger} {path : FilePath} {fate : Fate}
    (distinct : (ledger.map Prod.fst).Nodup) (member : (path, fate) ∈ ledger) :
    (∃ found, fate = .documented found) ↔ ∀ entry ∈ ledger.skipped, entry.1 ≠ path := by
  have listed {other : FilePath} {reason : String} :
      (other, reason) ∈ ledger.skipped ↔ (other, .skipped reason) ∈ ledger := by
    rw [skipped, List.mem_filterMap]
    constructor
    · rintro ⟨⟨other, fate⟩, inside, given⟩
      cases fate with
      | skipped reason =>
        cases given
        exact inside
      | documented found => cases given
    · exact fun inside => ⟨_, inside, rfl⟩
  constructor
  · rintro ⟨found, rfl⟩ ⟨other, reason⟩ inside rfl
    have same := List.inj_on_of_nodup_map distinct member (listed.mp inside) rfl
    cases same
  · intro kept
    cases fate with
    | skipped reason => exact absurd rfl (kept _ (listed.mpr member))
    | documented found => exact ⟨found, rfl⟩

namespace Plan

section

variable {plan : Plan} {service : Service σ} {tree made after : FileTree}
variable {root output path : FilePath} {state final : σ} {report : Report} {ledger : Ledger}
variable {inner place : Place} {sources : List (List String)} {last : Progress σ}

theorem page_of_steady {replies : String → Except ServiceError String}
    (steady : ∀ prompt state, (service prompt state).1 = replies prompt) (base : List Component)
    (module : SourceModule) (state : σ) :
    plan.page (.ofReplies replies) base module () =
      ((plan.page service base module state).1, (plan.page service base module state).2.1, ()) :=
  (Service.isPartOf_ofReplies steady).page plan.settings.output (module.name base)
    (shownFrom base module.path) module.found state

theorem pages_of_steady {replies : String → Except ServiceError String}
    (steady : ∀ prompt state, (service prompt state).1 = replies prompt) (base : List Component)
    (modules : List SourceModule) (state : σ) :
    (plan.pages service base modules state).1 =
      modules.map fun module => (plan.page (.ofReplies replies) base module ()).1 := by
  induction modules generalizing state with
  | nil => rfl
  | cons module rest ih =>
    rw [pages, List.map_cons, page_of_steady steady base module state]
    exact congrArg _ (ih _)

theorem ledger_of_run (plain : tree.IsPlain) (directory : tree.isDirectory root = true)
    (ran : plan.run service root output tree state = (.ok report, after, final)) :
    ∃ made inner place sources ledger last,
      tree.Prepared plan.selection root output made inner place sources ∧
      ledger.map Prod.fst = sources.map (below root) ∧
      plan.Runs service (FilePath.components root) output { tree := made, service := state }
        ledger last ∧
      last.report = report ∧ last.tree = after := by
  obtain ⟨made, ledger, last, discovered, directories, runs, reported, left, -⟩ := runs_of_run ran
  obtain ⟨inner, place, sources, prepared⟩ :=
    FileTree.prepared plain plan.selection directory directories
  rw [prepared.base] at runs
  exact ⟨made, inner, place, sources, ledger, last, prepared,
    Except.ok.inj (discovered.symm.trans prepared.discovered), runs, reported, left⟩

theorem Runs.becomes
    (prepared : tree.Prepared plan.selection root output made inner place sources)
    (files : ledger.map Prod.fst = sources.map (FilePath.below root))
    (runs : plan.Runs service (FilePath.components root) output { tree := made, service := state }
      ledger last) :
    ∀ before path fate later, ledger = before ++ (path, fate) :: later →
      plan.Becomes tree root before path fate := by
  intro before path fate later split
  obtain ⟨-, fates, -⟩ :=
    runs.written prepared (Ledger.listed_of_files files) prepared.hosts.written
  rw [fates before path fate later split]
  exact becomes_fate plan tree root before path

theorem Runs.skipped_below
    (prepared : tree.Prepared plan.selection root output made inner place sources)
    (files : ledger.map Prod.fst = sources.map (FilePath.below root))
    (runs : plan.Runs service (FilePath.components root) output { tree := made, service := state }
      ledger last) :
    last.report.skipped = ledger.skipped :=
  runs.skipped_sorted files prepared.sorted fun names member => (prepared.files names member).entry

/-- In a ledger, the files before another one are those less than it. -/
theorem mem_before_iff
    (prepared : tree.Prepared plan.selection root output made inner place sources)
    (files : ledger.map Prod.fst = sources.map (below root)) {before later : Ledger} {fate : Fate}
    (split : ledger = before ++ (path, fate) :: later) {other : FilePath}
    (member : other ∈ ledger.map Prod.fst) :
    other ∈ before.map Prod.fst ↔ FilePath.isLess other path = true := by
  have entries : ∀ names ∈ sources, FilePath.IsEntry names :=
    fun names member => (prepared.files names member).entry
  rw [split, List.map_append, List.map_cons] at files
  obtain ⟨front, rest, rfl, first, second⟩ := List.map_eq_append_iff.mp files.symm
  obtain ⟨own, back, rfl, rfl, further⟩ := List.map_eq_cons_iff.mp second
  have sorted := prepared.sorted
  rw [List.pairwise_append, List.pairwise_cons] at sorted
  obtain ⟨-, ⟨behind, -⟩, ahead⟩ := sorted
  have entry : FilePath.IsEntry own := entries own (by simp)
  rw [← first]
  constructor
  · intro given
    obtain ⟨names, inside, rfl⟩ := List.mem_map.mp given
    exact (FilePath.isLess_below root (entries names (by simp [inside])) entry).mpr
      (ahead names inside own List.mem_cons_self)
  · intro less
    rw [split, List.map_append, List.map_cons, ← first, ← further] at member
    rcases List.mem_append.mp member with earlier | here
    · exact earlier
    · obtain ⟨names, inside, rfl⟩ : ∃ names ∈ own :: back, below root names = other :=
        List.mem_map.mp here
      rw [FilePath.isLess_below root (entries names (by simp_all)) entry] at less
      rcases List.mem_cons.mp inside with rfl | later
      · exact absurd less (lt_irrefl _)
      · exact absurd less (lt_asymm (behind names later))

theorem not_isForestalled_iff
    (prepared : tree.Prepared plan.selection root output made inner place sources)
    (files : ledger.map Prod.fst = sources.map (below root)) {before later : Ledger} {fate : Fate}
    (split : ledger = before ++ (path, fate) :: later) :
    ¬ plan.IsForestalled tree root path ↔
      ∀ entry ∈ before, ModuleName.below root entry.1 = ModuleName.below root path →
        ∃ failure, tree.symbols plan.settings.analysis.nested entry.1 = .error failure := by
  constructor
  · rintro free entry inside name
    have member : entry.1 ∈ ledger.map Prod.fst := by
      rw [split]
      exact List.mem_map_of_mem (List.mem_append_left _ inside)
    have less := (mem_before_iff prepared files split member).mp (List.mem_map_of_mem inside)
    cases read : tree.symbols plan.settings.analysis.nested entry.1 with
    | error failure => exact ⟨failure, rfl⟩
    | ok found =>
      exact absurd ⟨_, prepared.discovered, _, files ▸ member, less, name, found, read⟩ free
  · rintro fails ⟨_, discovered, earlier, listed, less, name, found, read⟩
    obtain rfl := Except.ok.inj (discovered.symm.trans prepared.discovered)
    obtain ⟨entry, inside, rfl⟩ :=
      List.mem_map.mp ((mem_before_iff prepared files split (files ▸ listed)).mpr less)
    obtain ⟨failure, failed⟩ := fails entry inside name
    cases failed.symm.trans read

theorem nodup_of_files
    (prepared : tree.Prepared plan.selection root output made inner place sources)
    (files : ledger.map Prod.fst = sources.map (below root)) : (ledger.map Prod.fst).Nodup := by
  rw [files]
  refine List.Nodup.map_on (fun first inFirst second inSecond same => ?_) prepared.sorted.nodup
  exact FilePath.below_inj root (prepared.files first inFirst).entry
    (prepared.files second inSecond).entry same

end

section

variable {plan : Plan} {service : Service σ} {tree after : FileTree}
variable {root output path : FilePath} {state final : σ} {report : Report}
variable {names : List String} {content : Text.Bytes}

theorem covers_iff_readable (plain : tree.IsPlain) (directory : tree.isDirectory root = true)
    {files : List FilePath} (discovered : tree.discover plan.selection root = .ok files)
    (ran : plan.run service root output tree state = (.ok report, after, final)) :
    plan.Covers tree root report path ↔ path ∈ files ∧
      (∃ found, tree.symbols plan.settings.analysis.nested path = .ok found) ∧
        ¬ plan.IsForestalled tree root path := by
  obtain ⟨made, inner, place, sources, ledger, last, prepared, listed, runs, rfl, rfl⟩ :=
    ledger_of_run plain directory ran
  obtain rfl : files = ledger.map Prod.fst :=
    Except.ok.inj (discovered.symm.trans (listed ▸ prepared.discovered))
  have reduced : plan.Covers tree root last.report path ↔
      path ∈ ledger.map Prod.fst ∧ ∀ entry ∈ ledger.skipped, entry.1 ≠ path := by
    rw [← runs.skipped_below prepared listed]
    constructor
    · rintro ⟨⟨_, found, member⟩, kept⟩
      exact ⟨Except.ok.inj (found.symm.trans discovered) ▸ member, kept⟩
    · exact fun ⟨member, kept⟩ => ⟨⟨_, discovered, member⟩, kept⟩
  refine reduced.trans (and_congr_right fun member => ?_)
  obtain ⟨⟨_, fate⟩, inside, rfl⟩ := List.mem_map.mp member
  obtain ⟨before, later, split⟩ := List.append_of_mem inside
  rw [not_isForestalled_iff prepared listed split,
    ← documented_iff_first (runs.becomes prepared listed) split]
  exact (Ledger.documented_iff_kept (nodup_of_files prepared listed) inside).symm

theorem covers_iff_accepts (plain : tree.IsPlain) (directory : tree.isDirectory root = true)
    (entry : FilePath.IsEntry names) (read : tree.read (below root names) = .ok content)
    (ran : plan.run service root output tree state = (.ok report, after, final)) :
    plan.Covers tree root report (below root names) ↔
      plan.Accepts names content ∧ ¬ plan.IsForestalled tree root (below root names) := by
  obtain ⟨place, -, -, discovered⟩ :=
    FileTree.discover_directory plain.noLinks plan.selection directory
  rw [covers_iff_readable plain directory discovered ran,
    FileTree.mem_discover_iff plain directory entry read discovered,
    FileTree.symbols_of_read read]
  constructor
  · exact fun ⟨⟨source, wanted⟩, readable, free⟩ => ⟨⟨source, wanted, readable⟩, free⟩
  · exact fun ⟨⟨source, wanted, readable⟩, free⟩ => ⟨⟨source, wanted⟩, readable, free⟩

/-- With a service whose replies depend on the prompts only, the document of a module is made from
its path and what is found in it. -/
theorem document_of_covers {replies : String → Except ServiceError String}
    (steady : ∀ prompt state, (service prompt state).1 = replies prompt)
    (plain : tree.IsPlain) (directory : tree.isDirectory root = true)
    (ran : plan.run service root output tree state = (.ok report, after, final))
    (covers : plan.Covers tree root report path) :
    ∃ found, tree.symbols plan.settings.analysis.nested path = .ok found ∧
      after.read (FilePath.join output (ModuleName.below root path ++ ".md")) =
        .ok (encode (plan.page (.ofReplies replies) (FilePath.components root) ⟨path, found⟩
          ()).1.render.toList) := by
  obtain ⟨made, inner, place, sources, ledger, last, prepared, files, runs, rfl, rfl⟩ :=
    ledger_of_run plain directory ran
  obtain ⟨⟨_, discovered, member⟩, kept⟩ := covers
  obtain rfl := Except.ok.inj (discovered.symm.trans prepared.discovered)
  obtain ⟨⟨_, fate⟩, inside, rfl⟩ := List.mem_map.mp (files ▸ member)
  rw [runs.skipped_below prepared files] at kept
  obtain ⟨found, rfl⟩ :=
    (Ledger.documented_iff_kept (nodup_of_files prepared files) inside).mpr kept
  obtain ⟨before, later, split⟩ := List.append_of_mem inside
  have listed := Ledger.listed_of_files files
  have module : SourceModule.mk _ found ∈ ledger.modules := Ledger.mem_modules.mpr inside
  have contents := runs.contents prepared listed prepared.hosts.written runs.names_nodup
  rw [pages_of_steady steady, List.forall₂_map_right_iff, List.forall₂_same] at contents
  have content := contents _ module
  obtain ⟨written, -⟩ := runs.written prepared listed prepared.hosts.written
  have valid := Ledger.isFileName_modules prepared listed _ module
  have resolved := written.resolve_document prepared.hosts valid (by rw [content]; exact nofun)
  refine ⟨found, (runs.becomes prepared files _ _ _ _ split).readable, ?_⟩
  exact FileTree.read_of_resolve resolved content

end

/-- Two trees may differ in everything but one file. Where both runs document it, its documents are
the same, and whether a run documents it depends on its names and its content and on whether an
earlier file of its module name can be read. -/
theorem modules_independent {plan : Plan} {service : Service σ} {first second after twin : FileTree}
    {root output : FilePath} {names : List String} {content : Text.Bytes}
    {replies : String → Except ServiceError String} {state otherState final otherFinal : σ}
    {report other : Report}
    (steady : ∀ prompt state, (service prompt state).1 = replies prompt)
    (plainFirst : first.IsPlain) (plainSecond : second.IsPlain)
    (directoryFirst : first.isDirectory root = true)
    (directorySecond : second.isDirectory root = true) (entry : FilePath.IsEntry names)
    (readFirst : first.read (below root names) = .ok content)
    (readSecond : second.read (below root names) = .ok content)
    (ranFirst : plan.run service root output first state = (.ok report, after, final))
    (ranSecond : plan.run service root output second otherState = (.ok other, twin, otherFinal)) :
    let path := below root names
    let document := FilePath.join output (ModuleName.below root path ++ ".md")
    (plan.Covers first root report path → plan.Covers second root other path →
      ∃ text, after.read document = .ok text ∧ twin.read document = .ok text) ∧
    (plan.Covers first root report path ↔
      plan.Accepts names content ∧ ¬ plan.IsForestalled first root path) ∧
    (plan.Covers second root other path ↔
      plan.Accepts names content ∧ ¬ plan.IsForestalled second root path) := by
  refine ⟨?_, covers_iff_accepts plainFirst directoryFirst entry readFirst ranFirst,
    covers_iff_accepts plainSecond directorySecond entry readSecond ranSecond⟩
  intro coversFirst coversSecond
  obtain ⟨found, own, documented⟩ :=
    document_of_covers steady plainFirst directoryFirst ranFirst coversFirst
  obtain ⟨others, same, twinDocumented⟩ :=
    document_of_covers steady plainSecond directorySecond ranSecond coversSecond
  obtain rfl : found = others := by
    rw [FileTree.symbols_congr (readSecond.trans readFirst.symm), own] at same
    exact Except.ok.inj same
  exact ⟨_, documented, twinDocumented⟩

def grownTree : FileTree where
  nodes :=
    [(["p"], .directory), (["p", "c.py"], .file (encode "def g(): pass\n".toList)),
      (["p", "a"], .directory), (["p", "a", "b.py"], .file (encode "class\n".toList)),
      (["p", "a", "__init__.py"], .file (encode "class A:\n    def f(self): pass\n".toList))]

theorem isPlain_grownTree : grownTree.IsPlain := by
  refine ⟨FileTree.noLinks_of_nodes ?_, by decide, by decide, rfl⟩
  intro entry member target
  simp only [grownTree, List.mem_cons, List.not_mem_nil, or_false] at member
  rcases member with rfl | rfl | rfl | rfl | rfl <;> simp

def grownReport : Report where
  outputs := ["o/a.md", "o/c.md"]
  symbols := 3
  skipped := [("p/a/b.py", "Parse error in p/a/b.py: syntax error at line 1, column 1")]

def alike : Service Nat := fun _ count => (.ok "text", count + 1)

theorem grownTree_independent :
    collidingTree.IsPlain ∧ grownTree.IsPlain ∧
      ∃ after final twin otherFinal,
        everyFile.run alike "p" "o" collidingTree 0 = (.ok collidingReport, after, final) ∧
        everyFile.run alike "p" "o" grownTree 7 = (.ok grownReport, twin, otherFinal) ∧
        ∃ text, after.read "o/a.md" = .ok text ∧ twin.read "o/a.md" = .ok text := by
  obtain ⟨after, final, ran⟩ :
      ∃ after final, everyFile.run alike "p" "o" collidingTree 0 =
        (.ok collidingReport, after, final) := exists_run (by decide +kernel)
  obtain ⟨twin, otherFinal, twinRan⟩ :
      ∃ after final, everyFile.run alike "p" "o" grownTree 7 =
        (.ok grownReport, after, final) := exists_run (by decide +kernel)
  have steady : ∀ prompt count, (alike prompt count).1 = .ok "text" := fun _ _ => rfl
  have entry : FilePath.IsEntry ["a", "__init__.py"] := ⟨by decide, by decide⟩
  have read : collidingTree.read (below "p" ["a", "__init__.py"]) =
      .ok (encode "class A:\n    def f(self): pass\n".toList) := by decide +kernel
  have independent := modules_independent steady isPlain_collidingTree isPlain_grownTree
    (by decide +kernel) (by decide +kernel) entry read (by decide +kernel) ran twinRan
  have covers : everyFile.Covers collidingTree "p" collidingReport "p/a/__init__.py" :=
    ⟨⟨["p/a/__init__.py", "p/a.py", "p/b.py"], by decide +kernel, by decide⟩, by decide⟩
  have twinCovers : everyFile.Covers grownTree "p" grownReport "p/a/__init__.py" :=
    ⟨⟨["p/a/__init__.py", "p/a/b.py", "p/c.py"], by decide +kernel, by decide⟩, by decide⟩
  exact ⟨isPlain_collidingTree, isPlain_grownTree, after, final, twin, otherFinal, ran, twinRan,
    independent.1 covers twinCovers⟩

end Plan

end PythonDocs
