import PythonDocs.Proofs.Run.Below

namespace PythonDocs

open FilePath (below)
open FileTree (documentPlace)
open Text (encode)

namespace Plan

variable {σ : Type} {plan : Plan} {service : Service σ} {base : List Component}
variable {tree made after : FileTree} {root output path : FilePath} {place : Place}
variable {progress : Progress σ} {files : List FilePath} {state final : σ}

theorem document_written (plan : Plan) (service : Service σ) (hosts : made.Hosts output place)
    (valid : IsFileName (ModuleName.seenFrom base path ++ ".md"))
    (written : made.Written place progress.tree) :
    made.Written place (plan.document service base output path progress).2.tree ∧
      ∀ other, other ≠ documentPlace place (ModuleName.seenFrom base path) →
        (plan.document service base output path progress).2.tree.node? other =
          progress.tree.node? other := by
  cases given : plan.fate base progress.tree progress.claimed path with
  | skipped reason =>
    rw [document, given]
    exact ⟨written, fun _ _ => rfl⟩
  | documented found =>
    have wrote := written.write hosts valid
      (encode (plan.page service base ⟨path, found⟩ progress.service).1.render.toList)
    rw [document_documented given, SourceModule.target, SourceModule.name, wrote]
    by_cases full : made.node? (documentPlace place (ModuleName.seenFrom base path)) =
        some .directory
    · rw [if_pos full]
      exact ⟨written, fun _ _ => rfl⟩
    · rw [if_neg full]
      exact ⟨written.put full _, fun _ apart => FileTree.node?_put_other _ apart _⟩

theorem documentAll_written (plan : Plan) (service : Service σ)
    (hosts : made.Hosts output place)
    (valid : ∀ path ∈ files, IsFileName (ModuleName.seenFrom base path ++ ".md"))
    (progress : Progress σ) (written : made.Written place progress.tree) :
    made.Written place (plan.documentAll service base output files progress).2.tree ∧
      ∀ other, (∀ path ∈ files, other ≠ documentPlace place (ModuleName.seenFrom base path)) →
        (plan.documentAll service base output files progress).2.tree.node? other =
          progress.tree.node? other := by
  induction files generalizing progress with
  | nil => exact ⟨written, fun _ _ => rfl⟩
  | cons path rest ih =>
    rw [List.forall_mem_cons] at valid
    obtain ⟨between, frame⟩ := document_written plan service hosts valid.1 written
    rw [documentAll]
    cases step : plan.document service base output path progress with
    | mk problem middle =>
      rw [step] at between frame
      cases problem with
      | some problem =>
        exact ⟨between, fun other apart => frame other (apart path List.mem_cons_self)⟩
      | none =>
        obtain ⟨last, frames⟩ := ih valid.2 middle between
        refine ⟨last, fun other apart => ?_⟩
        rw [List.forall_mem_cons] at apart
        exact (frames other apart.2).trans (frame other apart.1)

theorem tree_of_run {result : Except Failure Report}
    (discovered : tree.discover plan.selection root = .ok files)
    (ran : plan.run service root output tree state = (result, after, final)) :
    after = tree ∨ tree.exists? root = true ∧ ∃ made, tree.createDirectories output = .ok made ∧
      after = (plan.documentAll service (runBase made root) output files
        { tree := made, service := state }).2.tree := by
  unfold run at ran
  rw [discovered] at ran
  split at ran
  · cases ran
    exact .inl rfl
  · rename_i present
    simp only at ran
    split at ran
    · cases ran
      exact .inl rfl
    · rename_i made directories
      refine .inr ⟨by simpa using present, made, directories, ?_⟩
      split at ran <;> cases ran <;> simp_all

theorem sources_below (plain : tree.IsPlain) (directory : tree.isDirectory root = true)
    (discovered : tree.discover plan.selection root = .ok files)
    (directories : tree.createDirectories output = .ok made)
    (last : after = (plan.documentAll service (runBase made root) output files
      { tree := made, service := state }).2.tree) :
    ∀ path ∈ files, after.read path = tree.read path := by
  obtain ⟨inner, place, sources, prepared⟩ :=
    FileTree.prepared plain plan.selection directory directories
  obtain rfl := Except.ok.inj (discovered.symm.trans prepared.discovered)
  have valid : ∀ path ∈ sources.map (below root),
      IsFileName (ModuleName.seenFrom (runBase made root) path ++ ".md") := by
    rw [prepared.base]
    exact List.forall_mem_map.mpr fun names source => prepared.isFileName source
  obtain ⟨written, -⟩ := documentAll_written plan service prepared.hosts valid
    { tree := made, service := state } prepared.hosts.written
  rw [← last] at written
  refine List.forall_mem_map.mpr fun names source => ?_
  exact written.read_source prepared.grows prepared.noLinks prepared.leads
    (prepared.isSource names source) (prepared.files names source)

/-- A file that a run documents alone keeps its content, unless the path of the document leads to
it. -/
theorem source_alone (plain : tree.IsPlain) (file : tree.isFile root = true)
    (directories : tree.createDirectories output = .ok made)
    (last : after = (plan.documentAll service (runBase made root) output [root]
      { tree := made, service := state }).2.tree) :
    after.read root = tree.read root ∨ after.resolve root = after.resolve
      (FilePath.join output (ModuleName.seenFrom (runBase tree root) root ++ ".md")) := by
  obtain ⟨source, content, resolved, found⟩ := FileTree.isFile_iff.mp file
  obtain ⟨grows, place, hosts⟩ := plain.hosts directories
  have still : made.isFile root = true := FileTree.isFile_iff.mpr
    ⟨source, content, grows.keeps.resolve plain.noLinks hosts.noLinks resolved,
      grows.kept _ _ found⟩
  have base : runBase made root = (FilePath.parent? root).getD [] := if_pos still
  have same : runBase tree root = (FilePath.parent? root).getD [] := if_pos file
  have valid := ModuleName.isFileName_alone root
  obtain ⟨written, frame⟩ := documentAll_written plan service hosts
    (List.forall_mem_singleton.mpr valid) { tree := made, service := state } hosts.written
  rw [← base, ← last] at written frame
  have keeps := grows.keeps.trans written.keeps
  have now := keeps.resolve plain.noLinks written.noLinks resolved
  rw [same, ← base]
  by_cases own : source = documentPlace place (ModuleName.seenFrom (runBase made root) root)
  · right
    rw [now, own]
    refine (written.resolve_document hosts (base ▸ valid) ?_).symm
    exact keeps.present _ (own ▸ by simp [found])
  · left
    have kept : after.node? source = some (.file content) := by
      rw [frame _ (List.forall_mem_singleton.mpr own)]
      exact grows.kept _ _ found
    rw [FileTree.read_of_resolve now kept, FileTree.read_of_resolve resolved found]

/-- However a run ends, the files that it was to document can be read as before, but for a single
file that is the document of its own module. -/
theorem sources_of_run (plain : tree.IsPlain) {result : Except Failure Report}
    (discovered : tree.discover plan.selection root = .ok files)
    (ran : plan.run service root output tree state = (result, after, final)) :
    ∀ path ∈ files, after.read path = tree.read path ∨
      path = root ∧ tree.isFile root = true ∧ after.resolve root = after.resolve
        (FilePath.join output (ModuleName.seenFrom (runBase tree root) root ++ ".md")) := by
  rcases tree_of_run discovered ran with rfl | ⟨present, made, directories, last⟩
  · exact fun _ _ => .inl rfl
  · rcases FileTree.isFile_or_isDirectory plain.noLinks present with file | directory
    · obtain rfl : [root] = files := by
        rw [FileTree.discover, file] at discovered
        exact Except.ok.inj discovered
      refine List.forall_mem_singleton.mpr ?_
      exact (source_alone plain file directories last).imp_right fun own => ⟨rfl, file, own⟩
    · exact fun path member =>
        .inl (sources_below plain directory discovered directories last path member)

theorem sources_of_collidingTree :
    collidingTree.IsPlain ∧ ∃ files after final,
      collidingTree.discover everyFile.selection "p" = .ok files ∧
      files = ["p/a/__init__.py", "p/a.py", "p/b.py"] ∧
      everyFile.run unsteady "p" "o" collidingTree true = (.ok collidingReport, after, final) ∧
      ∀ path ∈ files, after.read path = collidingTree.read path := by
  obtain ⟨after, final, ran⟩ := run_collidingTree
  have discovered : collidingTree.discover everyFile.selection "p" =
      .ok ["p/a/__init__.py", "p/a.py", "p/b.py"] := by decide +kernel
  refine ⟨isPlain_collidingTree, _, after, final, discovered, rfl, ran, fun path member => ?_⟩
  rcases sources_of_run isPlain_collidingTree discovered ran path member with same | ⟨-, file, -⟩
  · exact same
  · exact absurd file (by decide +kernel)

def noteTree : FileTree where
  nodes := [(["p"], .directory), (["p", "notes.md"], .file (encode "x = 1\n".toList))]

theorem isPlain_noteTree : noteTree.IsPlain := by
  refine ⟨FileTree.noLinks_of_nodes ?_, by decide, by decide, rfl⟩
  intro entry member target
  simp only [noteTree, List.mem_cons, List.not_mem_nil, or_false] at member
  rcases member with rfl | rfl <;> simp

theorem source_overwritten :
    noteTree.IsPlain ∧ noteTree.discover everyFile.selection "p/notes.md" = .ok ["p/notes.md"] ∧
      noteTree.read "p/notes.md" = .ok (encode "x = 1\n".toList) ∧
      (everyFile.run (fun _ state => (.ok "Notes", state)) "p/notes.md" "p" noteTree
        ()).2.1.read "p/notes.md" =
          .ok (encode "Notes\n\n\n---\n*Source: `notes.md`*\n".toList) :=
  ⟨isPlain_noteTree, by decide +kernel, by decide +kernel, by decide +kernel⟩

end Plan

end PythonDocs
