import PythonDocs.Proofs.Discovery.Patterns
import PythonDocs.Proofs.FileTree.Reordered
import PythonDocs.Proofs.Text.ByteOrder
import PythonDocs.Settings.Overrides

namespace PythonDocs

open FilePath (IsEntry below)

theorem isSourceName_iff {names : List String} : isSourceName names = true ↔
    ∃ stem, stem ≠ "" ∧ names.getLast? = some (stem ++ ".py") := by
  have ending (stem : String) : stem ++ "." ++ "py" = stem ++ ".py" := String.append_assoc ..
  unfold isSourceName
  cases names.getLast? with
  | none => simp
  | some name =>
    rw [decide_eq_true_iff]
    constructor
    · intro given
      obtain ⟨-, stem, some, rfl⟩ := FilePath.exists_of_extension given
      exact ⟨stem, some, congrArg _ (ending stem)⟩
    · intro given
      obtain ⟨stem, some, same⟩ := given
      obtain rfl := Option.some.inj same
      rw [← ending, FilePath.splitName_append some (by decide)]

namespace FilePath

def bytes (path : FilePath) : List Text.Bytes :=
  (components path).map fun component => Text.encode component.text.toList

theorem bytes_below_lt (root : FilePath) {names others : List String} (first : IsEntry names)
    (second : IsEntry others) (less : names < others) :
    bytes (below root names) < bytes (below root others) := by
  rw [bytes, bytes, components_below root first.some first.valid,
    components_below root second.some second.valid, List.map_append, List.map_append,
    List.map_map, List.map_map]
  apply List.append_left_lt
  exact List.map_lt (fun _ _ before => Text.encode_lt (String.lt_iff_toList_lt.mp before)) less

theorem ofComponents_relativeTo_below (root : FilePath) {names : List String}
    (entry : IsEntry names) :
    ofComponents (relativeTo root (below root names)) = Text.join "/" names := by
  have text : names.map (Component.text ∘ .name) = names := List.map_id names
  rw [relativeTo_below root entry.some entry.valid]
  cases names with
  | nil => exact absurd rfl entry.some
  | cons name rest =>
    rw [ofComponents, List.map_map, text]
    simp

end FilePath

namespace FileTree

variable {tree other : FileTree} {root : FilePath} {place : Place} {names : List String}

structure IsSource (tree : FileTree) (root : FilePath) (names : List String) : Prop where
  entry : IsEntry names
  file : tree.isFile (below root names) = true
  extension : ∃ stem, stem ≠ "" ∧ names.getLast? = some (stem ++ ".py")

theorem leadsToFile_iff (noLinks : tree.HasNoLinks)
    (leads : tree.Leads tree.here (FilePath.way root) place) :
    tree.LeadsToFile place names ↔ IsEntry names ∧ tree.isFile (below root names) = true := by
  rw [isFile_iff]
  constructor
  · intro file
    obtain ⟨content, found⟩ := file.file
    have whole : tree.Leads tree.here (FilePath.steps (below root names)) (place ++ names) := by
      rw [FilePath.steps_below root file.entry.some file.entry.valid]
      exact leads.append file.leads
    have some := FilePath.below_ne_empty root file.entry.some file.entry.valid
    exact ⟨file.entry, _, content, resolve_of_leads noLinks some whole, found⟩
  · intro given
    obtain ⟨entry, last, content, resolved, found⟩ := given
    exact leadsToFile_of_read noLinks leads entry (read_of_resolve resolved found)

theorem discover_sources (plain : tree.IsPlain) (selection : Selection)
    (directory : tree.isDirectory root = true) :
    ∃ sources : List (List String), tree.discover selection root = .ok (sources.map (below root)) ∧
      sources.Pairwise (· < ·) ∧ ∀ names, names ∈ sources ↔
        tree.IsSource root names ∧ selection.wants (Text.join "/" names) = true := by
  obtain ⟨place, leads, inside, discovered⟩ :=
    discover_directory plain.noLinks selection directory
  refine ⟨_, discovered, sourcesBelow_pairwise plain.distinct selection place, ?_⟩
  intro names
  rw [mem_sourcesBelow, mem_filesIn_iff plain inside, leadsToFile_iff plain.noLinks leads,
    isSourceName_iff]
  constructor
  · intro given
    obtain ⟨⟨entry, file⟩, extension, wanted⟩ := given
    exact ⟨⟨entry, file, extension⟩, wanted⟩
  · intro given
    obtain ⟨⟨entry, file, extension⟩, wanted⟩ := given
    exact ⟨⟨entry, file⟩, extension, wanted⟩

theorem discover_congr (plain : tree.IsPlain) (plainToo : other.IsPlain)
    {selection alike : Selection} (directory : tree.isDirectory root = true)
    (directoryToo : other.isDirectory root = true)
    (files : ∀ path, other.isFile path = tree.isFile path)
    (wants : ∀ path, alike.wants path = selection.wants path) :
    other.discover alike root = tree.discover selection root := by
  obtain ⟨sources, discovered, sorted, mem⟩ := discover_sources plain selection directory
  obtain ⟨others, discoveredToo, sortedToo, memToo⟩ :=
    discover_sources plainToo alike directoryToo
  have same : others = sources := by
    refine sortedToo.eq_of_mem_iff sorted fun names => ?_
    rw [mem, memToo, wants]
    refine and_congr_left fun _ => ⟨fun source => ?_, fun source => ?_⟩
    · exact ⟨source.entry, (files _).symm.trans source.file, source.extension⟩
    · exact ⟨source.entry, (files _).trans source.file, source.extension⟩
  rw [discovered, discoveredToo, same]

theorem IsReordered.discover_eq (reordered : tree.IsReordered other) (plain : tree.IsPlain)
    (selection : Selection) (directory : tree.isDirectory root = true) :
    other.discover selection root = tree.discover selection root :=
  discover_congr plain (reordered.isPlain plain) directory
    (reordered.isDirectory_of_isDirectory plain directory) (reordered.isFile_eq plain) fun _ => rfl

theorem discover_narrower (plain : tree.IsPlain) (directory : tree.isDirectory root = true)
    {selection narrower : Selection} {keep : String → Bool}
    (wants : ∀ path, narrower.wants path = (selection.wants path && keep path))
    {files : List FilePath} (discovered : tree.discover selection root = .ok files) :
    tree.discover narrower root = .ok (files.filter fun path =>
      keep (FilePath.ofComponents (FilePath.relativeTo root path))) := by
  obtain ⟨sources, found, sorted, mem⟩ := discover_sources plain selection directory
  obtain ⟨fewer, foundToo, sortedToo, memToo⟩ := discover_sources plain narrower directory
  obtain rfl := Except.ok.inj (found.symm.trans discovered)
  have kept : fewer = sources.filter fun names => keep (Text.join "/" names) := by
    refine sortedToo.eq_of_mem_iff (sorted.filter _) fun names => ?_
    rw [List.mem_filter, mem, memToo, wants, Bool.and_eq_true, and_assoc]
  rw [foundToo, kept, List.filter_map]
  congr 2
  refine List.filter_congr fun names member => ?_
  rw [Function.comp, FilePath.ofComponents_relativeTo_below root ((mem names).mp member).1.entry]

/-- Below a directory a discovery gives the sources that match a pattern to include and none to
exclude, in the order of the bytes of their components. The order of the entries of the tree does
not matter, nor does that of the patterns or how often they are given, and more patterns to exclude
take away what they match and nothing else. -/
theorem discover_selected (plain : tree.IsPlain) (directory : tree.isDirectory root = true)
    {settings : Settings} {selection : Selection}
    (compiled : Selection.ofSettings settings.analysis = .ok selection) :
    ∃ files, tree.discover selection root = .ok files ∧
      (∀ path, path ∈ files ↔ ∃ names, path = below root names ∧ tree.IsSource root names ∧
        (∃ pattern ∈ settings.analysis.included,
          Glob.accepts pattern (Text.join "/" names) = true) ∧
        ∀ pattern ∈ settings.analysis.excluded,
          Glob.accepts pattern (Text.join "/" names) = false) ∧
      files.Pairwise (fun first second => FilePath.bytes first < FilePath.bytes second) ∧
      files.Nodup ∧
      (∀ other, tree.IsReordered other → other.discover selection root = .ok files) ∧
      (∀ others : AnalysisSettings,
        (∀ pattern, pattern ∈ others.included ↔ pattern ∈ settings.analysis.included) →
        (∀ pattern, pattern ∈ others.excluded ↔ pattern ∈ settings.analysis.excluded) →
        ∃ alike, Selection.ofSettings others = .ok alike ∧
          tree.discover alike root = .ok files) ∧
      ∀ overrides : Overrides, overrides.included = [] →
        (∀ pattern ∈ overrides.excluded, Glob.IsPattern pattern) →
        ∃ narrower, Selection.ofSettings (settings.merge overrides).analysis = .ok narrower ∧
          tree.discover narrower root = .ok (files.filter fun path =>
            !overrides.excluded.any fun pattern =>
              Glob.accepts pattern (FilePath.ofComponents (FilePath.relativeTo root path))) := by
  obtain ⟨sources, discovered, sorted, mem⟩ := discover_sources plain selection directory
  refine ⟨_, discovered, fun path => ?_, ?_, ?_, fun other reordered => ?_,
    fun others included excluded => ?_, fun overrides keeps right => ?_⟩
  · rw [List.mem_map]
    constructor
    · intro given
      obtain ⟨names, member, rfl⟩ := given
      obtain ⟨source, wanted⟩ := (mem names).mp member
      refine ⟨names, rfl, source, ?_⟩
      simpa [Selection.wants_eq compiled] using wanted
    · intro given
      obtain ⟨names, rfl, source, wanted⟩ := given
      refine ⟨names, (mem names).mpr ⟨source, ?_⟩, rfl⟩
      simpa [Selection.wants_eq compiled] using wanted
  · rw [List.pairwise_map]
    refine sorted.imp_of_mem fun {first second} member later before => ?_
    exact FilePath.bytes_below_lt root ((mem first).mp member).1.entry
      ((mem second).mp later).1.entry before
  · refine sorted.nodup.map_on fun first member second later => ?_
    exact FilePath.below_inj root ((mem first).mp member).1.entry ((mem second).mp later).1.entry
  · rw [← discovered]
    exact reordered.discover_eq plain selection directory
  · obtain ⟨alike, found, wants⟩ := Selection.exists_alike compiled included excluded
    refine ⟨alike, found, ?_⟩
    rw [← discovered]
    exact discover_congr plain plain directory directory (fun _ => rfl) wants
  · obtain ⟨narrower, found, wants⟩ := Selection.exists_narrower compiled right
    refine ⟨narrower, ?_, discover_narrower plain directory wants discovered⟩
    simpa [Settings.merge, keeps] using found

end FileTree

/-- Sources and other files, with an environment at the top and one further down. -/
def mixedTree : FileTree where
  nodes :=
    [(["p"], .directory), (["p", "a.py"], .file []), (["p", "a"], .directory),
      (["p", "a", "b.py"], .file []), (["p", ".py"], .file []), (["p", "x.PY"], .file []),
      (["p", "d.py"], .directory), (["p", "venv"], .directory),
      (["p", "venv", "c.py"], .file []), (["p", "a", "venv"], .directory),
      (["p", "a", "venv", "e.py"], .file []), (["p", "a", "q.egg-info"], .directory),
      (["p", "a", "q.egg-info", "f.py"], .file [])]

theorem isPlain_mixedTree : mixedTree.IsPlain := by
  have noLinks : ∀ entry ∈ mixedTree.nodes, ∀ target, entry.2 ≠ .link target := by
    simp [mixedTree]
  exact ⟨FileTree.noLinks_of_nodes noLinks, by decide, by decide, rfl⟩

theorem mixedTree_selected :
    mixedTree.IsPlain ∧ mixedTree.isDirectory "p" = true ∧ ∃ selection narrower,
      Selection.ofSettings { excluded := ["venv/**"] } = .ok selection ∧
      Selection.ofSettings { excluded := ["venv/**", "*/venv/*"] } = .ok narrower ∧
      (∀ other, mixedTree.IsReordered other → other.discover selection "p" =
        .ok ["p/a/b.py", "p/a/q.egg-info/f.py", "p/a/venv/e.py", "p/a.py"]) ∧
      mixedTree.discover narrower "p" = .ok ["p/a/b.py", "p/a/q.egg-info/f.py", "p/a.py"] := by
  have directory : mixedTree.isDirectory "p" = true := by decide +kernel
  have right : ∀ pattern ∈ ["*/venv/*"], Glob.IsPattern pattern :=
    List.forall_mem_singleton.mpr ⟨_, rfl⟩
  let settings : Settings := { analysis := { excluded := ["venv/**"] } }
  have usable : ∃ selection, Selection.ofSettings settings.analysis = .ok selection ∧
      mixedTree.discover selection "p" =
        .ok ["p/a/b.py", "p/a/q.egg-info/f.py", "p/a/venv/e.py", "p/a.py"] :=
    ⟨_, rfl, by decide +kernel⟩
  obtain ⟨selection, compiled, listed⟩ := usable
  obtain ⟨files, discovered, -, -, -, reordered, -, more⟩ :=
    FileTree.discover_selected isPlain_mixedTree directory compiled
  obtain rfl := Except.ok.inj (listed.symm.trans discovered)
  obtain ⟨narrower, narrowed, fewer⟩ := more { excluded := ["*/venv/*"] } rfl right
  exact ⟨isPlain_mixedTree, directory, selection, narrower, compiled, narrowed, reordered,
    fewer.trans (by decide +kernel)⟩

end PythonDocs
