import PythonDocs.Proofs.ModuleName.Packages
import PythonDocs.Proofs.Run.Accounts

namespace PythonDocs

open FilePath (IsEntry below)
open ModuleName (IsUndottedSource ArePackageAndModule)
open Text (encode)

namespace Ledger

variable {ledger : Ledger}

theorem split_files {before later : List FilePath} {path : FilePath}
    (files : ledger.map Prod.fst = before ++ path :: later) :
    ∃ front fate rest, ledger = front ++ (path, fate) :: rest ∧ front.map Prod.fst = before ∧
      rest.map Prod.fst = later := by
  obtain ⟨front, tail, rfl, first, second⟩ := List.map_eq_append_iff.mp files
  obtain ⟨entry, rest, rfl, rfl, last⟩ := List.map_eq_cons_iff.mp second
  exact ⟨front, entry.2, rest, rfl, first, last⟩

theorem split_package {root : FilePath} {sources : List (List String)} {names others : List String}
    (files : ledger.map Prod.fst = sources.map (below root)) (sorted : sources.Pairwise (· < ·))
    (entries : ∀ third ∈ sources, isSourceName third = true ∧ IsEntry third)
    (undotted : IsUndottedSource names) (pair : ArePackageAndModule names others)
    (inside : names ∈ sources) (insideToo : others ∈ sources) :
    ∃ before fate between own later,
      ledger = before ++ (below root names, fate) :: (between ++ (below root others, own) :: later) ∧
      ∀ entry ∈ before,
        ModuleName.below root entry.1 ≠ ModuleName.below root (below root names) := by
  obtain ⟨front, middle, back, rfl⟩ := FileTree.split_of_lt sorted pair.lt inside insideToo
  rw [List.map_append, List.map_cons, List.map_append, List.map_cons] at files
  obtain ⟨before, fate, rest, rfl, earlier, behind⟩ := split_files files
  obtain ⟨between, own, later, rfl, -, -⟩ := split_files behind
  refine ⟨before, fate, between, own, later, rfl, fun entry member same => ?_⟩
  have listed : entry.1 ∈ front.map (below root) := earlier ▸ List.mem_map_of_mem member
  obtain ⟨third, inside, equal⟩ := List.mem_map.mp listed
  obtain ⟨source, valid⟩ := entries third (List.mem_append_left _ inside)
  have less := (List.pairwise_append.mp sorted).2.2 third inside names List.mem_cons_self
  exact absurd (pair.le_of_below_eq undotted valid source (equal ▸ same)) (not_le.mpr less)

end Ledger

namespace Plan

variable {σ : Type}

/-- The progress of a run below a directory when a file is next. -/
def IsTurn (plan : Plan) (service : Service σ) (root output : FilePath) (tree : FileTree)
    (state : σ) (path : FilePath) (now : Progress σ) : Prop :=
  ∃ (made : FileTree) (before : Ledger) (later : List FilePath),
    tree.createDirectories output = .ok made ∧
    tree.discover plan.selection root = .ok (before.map Prod.fst ++ path :: later) ∧
    plan.Runs service (FilePath.components root) output { tree := made, service := state } before
      now

def content (plan : Plan) (service : Service σ) (root : FilePath) (now : Progress σ)
    (module : SourceModule) : Text.Bytes :=
  encode (plan.page service (FilePath.components root) module now.service).1.render.toList

/-- A module has the document of its name, and another file is skipped for it. -/
structure Favours (plan : Plan) (service : Service σ) (root output : FilePath) (now : Progress σ)
    (report : Report) (module : SourceModule) (other : FilePath) : Prop where
  written : ∃ next, now.tree.write (module.target (FilePath.components root) output)
    (plan.content service root now module) = .ok next
  reported : module.target (FilePath.components root) output ∈ report.outputs
  skipped : (other, takenReason (ModuleName.below root module.path)
    (FilePath.ofComponents (FilePath.relativeTo root module.path))) ∈ report.skipped

/-- A run takes one file before another of its name: where it can be read at its turn, it has the
document. In a tree without links it is read as it was before the run, and the document is left. -/
def Prefers (plan : Plan) (service : Service σ) (root output : FilePath) (tree : FileTree)
    (state : σ) (report : Report) (after : FileTree) (path other : FilePath) : Prop :=
  ∃ now, plan.IsTurn service root output tree state path now ∧
    (∀ found, now.tree.symbols plan.settings.analysis.nested path = .ok found →
      plan.Favours service root output now report ⟨path, found⟩ other) ∧
    (tree.IsPlain →
      now.tree.symbols plan.settings.analysis.nested path =
        tree.symbols plan.settings.analysis.nested path ∧
      ∀ found, tree.symbols plan.settings.analysis.nested path = .ok found →
        after.read (SourceModule.target (FilePath.components root) output ⟨path, found⟩) =
          .ok (plan.content service root now ⟨path, found⟩))

variable {plan : Plan} {service : Service σ} {base : List Component} {output : FilePath}
variable {progress last : Progress σ} {path other : FilePath} {fate own : Fate}

theorem lookup_claims {before : Ledger} {name : String}
    (free : ∀ entry ∈ before, ModuleName.seenFrom base entry.1 ≠ name) :
    (Ledger.claims base before).lookup name = none := by
  rw [List.lookup_eq_none_iff]
  intro claim member
  obtain ⟨module, inside, rfl⟩ := List.mem_map.mp member
  exact bne_iff_ne.mpr (free _ (Ledger.mem_modules.mp inside)).symm

theorem Runs.first {before later : Ledger}
    (runs : plan.Runs service base output progress (before ++ (path, fate) :: later) last)
    (start : progress.claimed = [])
    (free : ∀ entry ∈ before, ModuleName.seenFrom base entry.1 ≠ ModuleName.seenFrom base path) :
    ∃ now next, plan.Runs service base output progress before now ∧
      plan.Step service base output path now fate next ∧
      plan.Runs service base output next later last ∧
      ∀ found, now.tree.symbols plan.settings.analysis.nested path = .ok found →
        fate = .documented found := by
  obtain ⟨now, reached, further⟩ := runs.split
  cases further with
  | @step _ next _ _ _ _ step rest =>
    refine ⟨now, next, reached, step, rest, fun found read => ?_⟩
    have none : now.claimed.lookup (ModuleName.seenFrom base path) = none := by
      rw [reached.claimed, start, List.nil_append, lookup_claims free]
    have given : plan.fate base now.tree now.claimed path = .documented found := by
      simp only [Plan.fate, none, read]
    cases step with
    | skip skipped => cases skipped.symm.trans given
    | document documented => exact documented.symm.trans given

theorem Runs.second {before between later : Ledger} {found : ModuleSymbols}
    (runs : plan.Runs service base output progress
      (before ++ (path, .documented found) :: (between ++ (other, own) :: later)) last)
    (start : progress.claimed = [])
    (free : ∀ entry ∈ before, ModuleName.seenFrom base entry.1 ≠ ModuleName.seenFrom base path)
    (same : ModuleName.seenFrom base other = ModuleName.seenFrom base path) :
    own = .skipped (takenReason (ModuleName.seenFrom base path) (shownFrom base path)) := by
  rw [← List.cons_append, ← List.append_assoc] at runs
  obtain ⟨now, reached, further⟩ := runs.split
  have taken : now.claimed.lookup (ModuleName.seenFrom base path) = some path := by
    have claims : Ledger.claims base ((path, .documented found) :: between) =
        (ModuleName.seenFrom base path, path) :: Ledger.claims base between := rfl
    rw [reached.claimed, start, List.nil_append, Ledger.claims_append, claims,
      List.lookup_append, lookup_claims free, Option.none_or, List.lookup_cons_self]
  have given : plan.fate base now.tree now.claimed other =
      .skipped (takenReason (ModuleName.seenFrom base path) (shownFrom base path)) := by
    simp only [Plan.fate, same, taken]
  cases further with
  | step step _ =>
    cases step with
    | skip skipped => exact skipped.symm.trans given
    | document documented => cases documented.symm.trans given

section

variable {service : Service σ} {tree made after : FileTree} {root : FilePath} {state final : σ}
variable {report : Report} {names others : List String} {files : List FilePath}

/-- In a tree without links a file is read at its turn as it was before the run, and its document is
left as it is written. -/
theorem Runs.kept {inner place : Place} {sources : List (List String)}
    (prepared : tree.Prepared plan.selection root output made inner place sources)
    {before later : Ledger} {now next : Progress σ}
    (runs : plan.Runs service (FilePath.components root) output { tree := made, service := state }
      (before ++ (path, fate) :: later) last)
    (reached : plan.Runs service (FilePath.components root) output
      { tree := made, service := state } before now)
    (step : plan.Step service (FilePath.components root) output path now fate next)
    (further : plan.Runs service (FilePath.components root) output next later last)
    (listed : ∀ entry ∈ before ++ (path, fate) :: later,
      ∃ names ∈ sources, entry.1 = FilePath.below root names) :
    now.tree.symbols plan.settings.analysis.nested path =
        tree.symbols plan.settings.analysis.nested path ∧
      ∀ found, fate = .documented found →
        last.tree.read (SourceModule.target (FilePath.components root) output ⟨path, found⟩) =
          .ok (plan.content service root now ⟨path, found⟩) := by
  rw [List.forall_mem_append, List.forall_mem_cons] at listed
  obtain ⟨ahead, ⟨names, member, same⟩, behind⟩ := listed
  dsimp only at same
  subst same
  have written := (reached.written prepared ahead prepared.hosts.written).1
  refine ⟨prepared.symbols written member _, ?_⟩
  rintro found rfl
  have between := (step.written prepared member written).1
  obtain ⟨final, -, frame⟩ := further.written prepared behind between
  have distinct := runs.names_nodup
  rw [Ledger.modules_append, Ledger.modules_documented, List.map_append, List.map_cons] at distinct
  have content : last.tree.node?
      (FileTree.documentPlace place (ModuleName.below root (FilePath.below root names))) =
        some (.file (plan.content service root now ⟨FilePath.below root names, found⟩)) := by
    refine (frame _ fun module inside same => ?_).trans (step.content prepared member written).2
    have apart := (List.nodup_cons.mp (List.nodup_append.mp distinct).2.1).1
    exact apart (List.mem_map.mpr ⟨module, inside, (FileTree.documentPlace_inj.mp same).symm⟩)
  have resolved :=
    final.resolve_document prepared.hosts (prepared.isFileName member) (by simp [content])
  exact FileTree.read_of_resolve resolved content

theorem exists_of_run (ran : plan.run service root output tree state = (.ok report, after, final)) :
    tree.exists? root = true := by
  unfold run at ran
  split at ran
  · cases ran
  · rename_i present
    simpa using present

theorem ledger_below (formed : tree.IsFormed) (noFile : tree.isFile root = false)
    (ran : plan.run service root output tree state = (.ok report, after, final)) :
    ∃ (made : FileTree) (ledger : Ledger) (last : Progress σ) (sources : List (List String)),
      tree.createDirectories output = .ok made ∧
      tree.discover plan.selection root = .ok (ledger.map Prod.fst) ∧
      plan.Runs service (FilePath.components root) output { tree := made, service := state }
        ledger last ∧
      last.report = report ∧ last.tree = after ∧ last.report.skipped = ledger.skipped ∧
      ledger.map Prod.fst = sources.map (below root) ∧ sources.Pairwise (· < ·) ∧
      ∀ names ∈ sources, isSourceName names = true ∧ IsEntry names := by
  obtain ⟨made, ledger, last, discovered, directories, runs, reported, left, -⟩ := runs_of_run ran
  obtain ⟨place, sources, resolved, files, sorted, entries⟩ :=
    FileTree.discover_ordered formed noFile discovered
  have base : runBase made root = FilePath.components root := by
    rw [runBase, (FileTree.createDirectories_grows directories).isFile resolved noFile]
    rfl
  have skipped := runs.skipped_sorted files sorted fun names member => (entries names member).2
  exact ⟨made, ledger, last, sources, directories, discovered, base ▸ runs, reported, left, skipped,
    files, sorted, entries⟩

/-- The first file with a name goes before another one where it can be read. -/
theorem Runs.favours {before between later : Ledger}
    (runs : plan.Runs service (FilePath.components root) output { tree := made, service := state }
      (before ++ (path, fate) :: (between ++ (other, own) :: later)) last)
    (skipped : last.report.skipped =
      Ledger.skipped (before ++ (path, fate) :: (between ++ (other, own) :: later)))
    (free : ∀ entry ∈ before, ModuleName.below root entry.1 ≠ ModuleName.below root path)
    (same : ModuleName.below root other = ModuleName.below root path) :
    ∃ now next,
      plan.Runs service (FilePath.components root) output { tree := made, service := state }
        before now ∧
      plan.Step service (FilePath.components root) output path now fate next ∧
      plan.Runs service (FilePath.components root) output next
        (between ++ (other, own) :: later) last ∧
      ∀ found, now.tree.symbols plan.settings.analysis.nested path = .ok found →
        fate = .documented found ∧
        plan.Favours service root output now last.report ⟨path, found⟩ other := by
  obtain ⟨now, next, reached, step, further, documented⟩ := runs.first rfl free
  refine ⟨now, next, reached, step, further, fun found read => ?_⟩
  obtain rfl := documented found read
  obtain rfl := runs.second rfl free same
  refine ⟨rfl, ?_, ?_, ?_⟩
  · cases step with
    | document _ written => exact ⟨_, written⟩
  · rw [runs.outputs]
    apply List.mem_append_right
    rw [Ledger.modules_append, Ledger.modules_documented]
    exact List.mem_map_of_mem (List.mem_append_right _ List.mem_cons_self)
  · rw [skipped, Ledger.skipped_append, Ledger.skipped_documented, Ledger.skipped_append,
      Ledger.skipped_skipped]
    exact List.mem_append_right _ (List.mem_append_right _ List.mem_cons_self)

/-- What a run makes of a package and a module of one name. -/
theorem favours_of_run (formed : tree.IsFormed) (first : IsUndottedSource names)
    (second : IsUndottedSource others) (pair : ArePackageAndModule names others)
    (discovered : tree.discover plan.selection root = .ok files)
    (inside : below root names ∈ files) (insideToo : below root others ∈ files)
    (ran : plan.run service root output tree state = (.ok report, after, final)) :
    plan.Prefers service root output tree state report after (below root names)
      (below root others) := by
  have apart : below root names ≠ below root others :=
    fun same => pair.lt.ne (FilePath.below_inj root first.entry second.entry same)
  have noFile := FileTree.noFile_of_discover discovered apart inside insideToo
  have present := exists_of_run ran
  obtain ⟨made, ledger, last, sources, directories, given, runs, rfl, rfl, skipped, listed, sorted,
    entries⟩ := ledger_below formed noFile ran
  obtain rfl := Except.ok.inj (discovered.symm.trans given)
  have member := FileTree.mem_of_mem_below entries first.entry (listed ▸ inside)
  have memberToo := FileTree.mem_of_mem_below entries second.entry (listed ▸ insideToo)
  obtain ⟨before, fate, between, own, later, rfl, free⟩ :=
    Ledger.split_package listed sorted entries first pair member memberToo
  have same := ((ModuleName.below_eq_iff root first second).mpr (.inr (.inl pair))).symm
  obtain ⟨now, next, reached, step, further, favours⟩ := runs.favours skipped free same
  refine ⟨now, ⟨made, before, _, directories, given.trans (congrArg _ List.map_append), reached⟩,
    fun found read => (favours found read).2, fun plain => ?_⟩
  have directory :=
    (FileTree.isFile_or_isDirectory plain.noLinks present).resolve_left (by simp [noFile])
  obtain ⟨inner, place, sources, prepared⟩ :=
    FileTree.prepared plain plan.selection directory directories
  have files := Except.ok.inj (given.symm.trans prepared.discovered)
  obtain ⟨unchanged, left⟩ :=
    runs.kept prepared reached step further (Ledger.listed_of_files files)
  refine ⟨unchanged, fun found read => left found ?_⟩
  exact (favours found (unchanged.trans read)).1

/-- Two files whose names have no dots have one module name exactly where they are the file of a
package and the module beside it. The package comes first in the order of discovery, and a run
prefers it. -/
theorem package_before_module (root : FilePath) (first : IsUndottedSource names)
    (second : IsUndottedSource others) (apart : names ≠ others) :
    (ModuleName.below root (below root names) = ModuleName.below root (below root others) ↔
      ArePackageAndModule names others ∨ ArePackageAndModule others names) ∧
    (ArePackageAndModule names others →
      FilePath.isLess (below root names) (below root others) = true ∧
      ∀ (tree : FileTree) (plan : Plan) (files : List FilePath), tree.IsFormed →
        tree.discover plan.selection root = .ok files →
        below root names ∈ files → below root others ∈ files →
        files.Pairwise (fun path other => FilePath.isLess path other) ∧
        [below root names, below root others].Sublist files ∧
        ∀ {σ : Type} (service : Service σ) (output : FilePath) (state : σ) (report : Report)
          (after : FileTree) (final : σ),
          plan.run service root output tree state = (.ok report, after, final) →
          plan.Prefers service root output tree state report after (below root names)
            (below root others)) := by
  refine ⟨(ModuleName.below_eq_iff root first second).trans (or_iff_right apart), fun pair => ?_⟩
  refine ⟨(FilePath.isLess_below root first.entry second.entry).mpr pair.lt, ?_⟩
  intro tree plan files formed discovered inside insideToo
  obtain ⟨sorted, ordered⟩ :=
    FileTree.discover_pair formed first.entry second.entry pair.lt discovered inside insideToo
  exact ⟨sorted, ordered, fun service output state report after final ran =>
    favours_of_run formed first second pair discovered inside insideToo ran⟩

end

theorem package_before_collidingModule :
    IsUndottedSource ["a", "__init__.py"] ∧ IsUndottedSource ["a.py"] ∧
      ArePackageAndModule ["a", "__init__.py"] ["a.py"] ∧ collidingTree.IsFormed ∧
      ModuleName.below "p" (below "p" ["a", "__init__.py"]) =
        ModuleName.below "p" (below "p" ["a.py"]) ∧
      ∃ files after final,
        collidingTree.discover everyFile.selection "p" = .ok files ∧
        [below "p" ["a", "__init__.py"], below "p" ["a.py"]].Sublist files ∧
        everyFile.run unsteady "p" "o" collidingTree true = (.ok collidingReport, after, final) ∧
        (collidingTree.symbols .flatten (below "p" ["a", "__init__.py"])).toOption.isSome = true ∧
        everyFile.Prefers unsteady "p" "o" collidingTree true collidingReport after
          (below "p" ["a", "__init__.py"]) (below "p" ["a.py"]) := by
  have first : IsUndottedSource ["a", "__init__.py"] :=
    ⟨by decide, by decide, "__init__", by decide, by decide, rfl⟩
  have second : IsUndottedSource ["a.py"] := ⟨by decide, by decide, "a", by decide, by decide, rfl⟩
  have pair : ArePackageAndModule ["a", "__init__.py"] ["a.py"] :=
    @ArePackageAndModule.intro [] "a" fun _ => rfl
  have discovered : collidingTree.discover everyFile.selection "p" =
      .ok ["p/a/__init__.py", "p/a.py", "p/b.py"] := by decide +kernel
  obtain ⟨after, final, ran⟩ := run_collidingTree
  obtain ⟨same, package⟩ := package_before_module "p" first second (by decide)
  obtain ⟨-, runs⟩ := package pair
  obtain ⟨-, ordered, prefers⟩ := runs collidingTree everyFile _ isPlain_collidingTree.formed
    discovered (by decide) (by decide)
  exact ⟨first, second, pair, isPlain_collidingTree.formed, same.mpr (.inl pair), _, after, final,
    discovered, ordered, ran, by decide +kernel,
    prefers unsteady "o" true collidingReport after final ran⟩

end Plan

end PythonDocs
