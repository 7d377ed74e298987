import PythonDocs.Page
import PythonDocs.Proofs.Discovery.Files
import PythonDocs.Proofs.FileTree.Directories
import PythonDocs.Proofs.ModuleName.Documents

namespace PythonDocs.FileTree

open FilePath (below)

def documentPlace (place : Place) (module : String) : Place := place ++ [module ++ ".md"]

structure Hosts (made : FileTree) (output : FilePath) (place : Place) : Prop where
  noLinks : made.HasNoLinks
  leads : made.Leads made.here (FilePath.way output) place
  inside : made.node? place = some .directory

/-- A later tree that differs at documents in a directory at most. -/
structure Written (made : FileTree) (place : Place) (tree : FileTree) : Prop where
  keeps : made.Keeps tree
  noLinks : tree.HasNoLinks
  directory : ∀ other, tree.node? other = some .directory → made.node? other = some .directory
  same : ∀ other, (∀ module, other ≠ documentPlace place module) →
    tree.node? other = made.node? other

variable {made tree : FileTree} {output : FilePath} {place : Place} {module : String}

theorem IsPlain.hosts {start : FileTree} (plain : start.IsPlain)
    (directories : start.createDirectories output = .ok made) :
    start.Grows made ∧ ∃ place, made.Hosts output place := by
  have grows := createDirectories_grows directories
  obtain ⟨place, leads, inside⟩ := createDirectories_reaches plain.noLinks plain.here directories
  exact ⟨grows, place, grows.noLinks plain.noLinks, leads, inside⟩

theorem Keeps.isDirectory {later : FileTree} (keeps : tree.Keeps later)
    (before : tree.HasNoLinks) (after : later.HasNoLinks) {path : FilePath}
    (directory : tree.isDirectory path = true) :
    later.isDirectory path = true := by
  obtain ⟨nonempty, place, leads, inside⟩ := (isDirectory_iff before).mp directory
  exact (isDirectory_iff after).mpr
    ⟨nonempty, place, keeps.here ▸ leads.keep keeps, keeps.directory _ inside⟩

theorem documentPlace_inj {other : String} :
    documentPlace place module = documentPlace place other ↔ module = other := by
  simp [documentPlace]

theorem Hosts.written (hosts : made.Hosts output place) : made.Written place made :=
  ⟨.refl made, hosts.noLinks, fun _ => id, fun _ _ => rfl⟩

theorem Written.noDirectory (written : made.Written place tree) {other : Place} :
    tree.node? other = some .directory ↔ made.node? other = some .directory :=
  ⟨written.directory other, written.keeps.directory other⟩

theorem Written.put (written : made.Written place tree)
    (free : made.node? (documentPlace place module) ≠ some .directory) (content : Text.Bytes) :
    made.Written place (tree.put (documentPlace place module) (.file content)) := by
  have some : documentPlace place module ≠ [] := by simp [documentPlace]
  refine ⟨written.keeps.trans (put_file_keeps tree content (mt (written.directory _) free)),
    put_noLinks written.noLinks (by intro target given; cases given), fun other inside => ?_,
    fun other apart => ?_⟩
  · by_cases same : other = documentPlace place module
    · subst same
      rw [node?_put_self tree some] at inside
      cases inside
    · rw [node?_put_other tree same] at inside
      exact written.directory other inside
  · rw [node?_put_other tree (apart module)]
    exact written.same other apart

theorem Hosts.leads_written (hosts : made.Hosts output place) (written : made.Written place tree) :
    tree.Leads tree.here (FilePath.way output) place :=
  written.keeps.here ▸ hosts.leads.keep written.keeps

theorem join_document (output : FilePath) (module : String) :
    FilePath.join output (module ++ ".md") = below output [module ++ ".md"] := by
  simp [below, Text.join, Text.joinWith]

theorem join_document_inj {output : FilePath} {other : String}
    (first : IsFileName (module ++ ".md")) (second : IsFileName (other ++ ".md"))
    (same : FilePath.join output (module ++ ".md") = FilePath.join output (other ++ ".md")) :
    module = other := by
  rw [join_document, join_document] at same
  have names := FilePath.below_inj output ⟨List.cons_ne_nil _ _, by simpa using first⟩
    ⟨List.cons_ne_nil _ _, by simpa using second⟩ same
  simpa using names

theorem Written.write (hosts : made.Hosts output place) (written : made.Written place tree)
    (valid : IsFileName (module ++ ".md")) (content : Text.Bytes) :
    tree.write (FilePath.join output (module ++ ".md")) content =
      if made.node? (documentPlace place module) = some .directory then .error .isDirectory
      else .ok (tree.put (documentPlace place module) (.file content)) := by
  have ends := FilePath.steps_below output (List.cons_ne_nil (module ++ ".md") [])
    (by simpa using valid)
  rw [join_document, write_of_leads written.noLinks ends (hosts.leads_written written)
    (written.keeps.directory _ hosts.inside) content]
  by_cases full : made.node? (documentPlace place module) = some .directory
  · rw [if_pos full]
    exact if_pos (written.noDirectory.mpr full)
  · rw [if_neg full]
    exact if_neg (mt written.noDirectory.mp full)

theorem Written.resolve_document (hosts : made.Hosts output place)
    (written : made.Written place tree) (valid : IsFileName (module ++ ".md"))
    (present : tree.node? (documentPlace place module) ≠ none) :
    tree.resolve (FilePath.join output (module ++ ".md")) =
      .ok (documentPlace place module) := by
  have some : [module ++ ".md"] ≠ [] := List.cons_ne_nil _ _
  have names : ∀ name ∈ [module ++ ".md"], IsFileName name := by simpa using valid
  rw [join_document]
  apply resolve_of_leads written.noLinks (FilePath.below_ne_empty output some names)
  rw [FilePath.steps_below output some names]
  apply (hosts.leads_written written).append
  refine .step (written.keeps.directory _ hosts.inside) ?_ (.done _)
  intro name given
  cases given
  exact present

theorem Written.read_document (hosts : made.Hosts output place) {later : FileTree}
    (written : made.Written place tree) (writtenToo : made.Written place later)
    (valid : IsFileName (module ++ ".md"))
    (same : later.node? (documentPlace place module) = tree.node? (documentPlace place module)) :
    later.read (FilePath.join output (module ++ ".md")) =
      tree.read (FilePath.join output (module ++ ".md")) := by
  by_cases present : tree.node? (documentPlace place module) = none
  · have names : ∀ name ∈ [module ++ ".md"], IsFileName name := by simpa using valid
    have steps := FilePath.steps_below output (List.cons_ne_nil _ _) names
    have nonempty := FilePath.below_ne_empty output (List.cons_ne_nil _ _) names
    have lacks {other : FileTree} (reached : made.Written place other)
        (missing : other.node? (documentPlace place module) = none) :
        other.read (FilePath.join output (module ++ ".md")) = .error .notFound := by
      have inside := reached.keeps.directory _ hosts.inside
      have lost := follow_missing reached.noLinks 40 (hosts.leads_written reached) inside missing
      rw [FileTree.read, resolve, join_document, if_neg nonempty, steps, List.map_singleton, lost]
      rfl
    rw [lacks written present, lacks writtenToo (same.trans present)]
  · rw [FileTree.read, FileTree.read, written.resolve_document hosts valid present,
      writtenToo.resolve_document hosts valid (same ▸ present)]
    simp only [bind, Except.bind, same]

theorem source_ne_documentPlace {inner : Place} {names : List String}
    (source : isSourceName names = true) (some : names ≠ []) (module : String) :
    inner ++ names ≠ documentPlace place module := by
  intro same
  have last := congrArg List.getLast? same
  rw [List.getLast?_append_of_ne_nil _ some, documentPlace, List.getLast?_concat] at last
  rw [isSourceName, last] at source
  exact FilePath.extension_document module (by simpa using source)

theorem Written.read_source {start : FileTree} {root : FilePath} {inner : Place}
    {names : List String} (grows : start.Grows made) (written : made.Written place tree)
    (noLinks : start.HasNoLinks) (leads : start.Leads start.here (FilePath.way root) inner)
    (source : isSourceName names = true) (file : start.LeadsToFile inner names) :
    tree.read (below root names) = start.read (below root names) := by
  obtain ⟨content, found⟩ := file.file
  have nonempty := FilePath.below_ne_empty root file.entry.some file.entry.valid
  have steps := FilePath.steps_below root file.entry.some file.entry.valid
  have way : start.Leads start.here (FilePath.steps (below root names)) (inner ++ names) :=
    steps ▸ leads.append file.leads
  have keeps := grows.keeps.trans written.keeps
  have kept : tree.node? (inner ++ names) = some (.file content) := by
    rw [written.same _ (source_ne_documentPlace source file.entry.some)]
    exact grows.kept _ _ found
  have now := resolve_of_leads written.noLinks nonempty (keeps.here ▸ way.keep keeps)
  rw [read_of_resolve now kept,
    read_of_resolve (resolve_of_leads noLinks nonempty way) found]

end PythonDocs.FileTree
