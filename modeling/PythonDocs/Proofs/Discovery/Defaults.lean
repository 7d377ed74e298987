import PythonDocs.Proofs.Discovery.Selected
import PythonDocs.Proofs.Glob.Matching
import PythonDocs.Run

namespace PythonDocs

open FilePath (below)

def Selection.standard : Selection where
  included := [.directories :: .sequence :: ".py".toList.map .char]
  excluded := [Glob.contents "venv", Glob.contents ".venv", Glob.contents "__pycache__",
    .sequence :: Glob.contents ".egg-info", Glob.contents ".git"]

theorem Plan.ofSettings_default : Plan.ofSettings {} = .ok ⟨{}, .standard⟩ := rfl

namespace Selection

variable {names : List String}

theorem standard_includes {stem : String} (ends : names.getLast? = some (stem ++ ".py")) :
    standard.included.any (·.isMatch (Text.join "/" names)) = true := by
  have last : (names.map String.toList).getLast? = some (stem.toList ++ ".py".toList) := by
    rw [List.getLast?_map, ends, Option.map_some, String.toList_append]
  obtain ⟨front, joined⟩ := Text.exists_joinWith_eq_append last ['/']
  have matched : Glob.matchesText (.sequence :: ".py".toList.map .char)
      (Text.join "/" names).toList = true := by
    rw [Glob.matchesText_sequence, FilePath.joined_toList, joined, ← List.append_assoc]
    exact ⟨_, _, rfl, Glob.matchesText_exact.mpr rfl⟩
  rw [standard, List.any_cons, Glob.isMatch, Glob.matchesText_directories matched, Bool.true_or]

theorem standard_excludes_iff (valid : ∀ name ∈ names, IsFileName name) :
    standard.excluded.any (·.isMatch (Text.join "/" names)) = true ↔
      (∃ first ∈ ["venv", ".venv", "__pycache__", ".git"],
        ∃ next rest, names = first :: next :: rest) ∨
      ∃ name ∈ names.dropLast, ∃ stem, name = stem ++ ".egg-info" := by
  have top (word : String) (whole : '/' ∉ word.toList) := Glob.isMatch_contents valid whole
  have anywhere (word : String) (whole : '/' ∉ word.toList) :=
    Glob.isMatch_sequence_contents valid whole
  simp only [standard, List.any_cons, List.any_nil, Bool.or_eq_true, Bool.or_false,
    top "venv" (by decide), top ".venv" (by decide), top "__pycache__" (by decide),
    top ".git" (by decide), anywhere ".egg-info" (by decide), List.exists_mem_cons_iff,
    List.not_mem_nil, false_and, exists_false, or_false, or_assoc]
  exact or_congr_right (or_congr_right (or_congr_right or_comm))

end Selection

/-- Without settings a discovery gives every source below a directory that is not in a directory
`venv`, `.venv`, `__pycache__` or `.git` at the top, nor below one, wherever it is, that has a name
with `.egg-info` at its end. -/
theorem FileTree.discover_default {tree : FileTree} (plain : tree.IsPlain) {root : FilePath}
    (directory : tree.isDirectory root = true) :
    ∃ plan files, Plan.ofSettings {} = .ok plan ∧ tree.discover plan.selection root = .ok files ∧
      ∀ path, path ∈ files ↔ ∃ names, path = below root names ∧ tree.IsSource root names ∧
        (¬ ∃ first ∈ ["venv", ".venv", "__pycache__", ".git"],
          ∃ next rest, names = first :: next :: rest) ∧
        ¬ ∃ name ∈ names.dropLast, ∃ stem, name = stem ++ ".egg-info" := by
  obtain ⟨sources, discovered, -, mem⟩ := discover_sources plain .standard directory
  refine ⟨_, _, Plan.ofSettings_default, discovered, fun path => ?_⟩
  have wanted {names : List String} (source : tree.IsSource root names) :
      Selection.standard.wants (Text.join "/" names) = true ↔ 
        (¬ ∃ first ∈ ["venv", ".venv", "__pycache__", ".git"],
          ∃ next rest, names = first :: next :: rest) ∧
        ¬ ∃ name ∈ names.dropLast, ∃ stem, name = stem ++ ".egg-info" := by
    obtain ⟨stem, -, ends⟩ := source.extension
    rw [Selection.wants, Selection.standard_includes ends, Bool.true_and, Bool.not_eq_true',
      ← Bool.not_eq_true, Selection.standard_excludes_iff source.entry.valid, not_or]
  rw [List.mem_map]
  constructor
  · intro given
    obtain ⟨names, member, rfl⟩ := given
    obtain ⟨source, given⟩ := (mem names).mp member
    exact ⟨names, rfl, source, (wanted source).mp given⟩
  · intro given
    obtain ⟨names, rfl, source, given⟩ := given
    exact ⟨names, (mem names).mpr ⟨source, (wanted source).mpr given⟩, rfl⟩

/-- Packaging directories are left out below others too, for a star stands for slashes. -/
example : Glob.accepts "*.egg-info/**" "a/q.egg-info/f.py" = true := by decide

theorem mixedTree_default :
    mixedTree.IsPlain ∧ mixedTree.isDirectory "p" = true ∧ ∃ plan,
      Plan.ofSettings {} = .ok plan ∧
      mixedTree.discover plan.selection "p" = .ok ["p/a/b.py", "p/a/venv/e.py", "p/a.py"] ∧
      ∃ names, "p/a/venv/e.py" = below "p" names ∧ mixedTree.IsSource "p" names ∧
        (¬ ∃ first ∈ ["venv", ".venv", "__pycache__", ".git"],
          ∃ next rest, names = first :: next :: rest) ∧
        ¬ ∃ name ∈ names.dropLast, ∃ stem, name = stem ++ ".egg-info" := by
  have directory : mixedTree.isDirectory "p" = true := by decide +kernel
  obtain ⟨plan, files, usable, discovered, mem⟩ :=
    FileTree.discover_default isPlain_mixedTree directory
  obtain rfl := Except.ok.inj (Plan.ofSettings_default.symm.trans usable)
  have listed : mixedTree.discover Selection.standard "p" =
      .ok ["p/a/b.py", "p/a/venv/e.py", "p/a.py"] := by decide +kernel
  obtain rfl := Except.ok.inj (listed.symm.trans discovered)
  exact ⟨isPlain_mixedTree, directory, _, usable, listed, (mem _).mp (by decide)⟩

end PythonDocs
