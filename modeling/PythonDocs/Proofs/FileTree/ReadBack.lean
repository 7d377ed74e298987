import PythonDocs.Proofs.FileTree.Changes

namespace PythonDocs.FileTree

open Text (Bytes)

def IsOpen (tree : FileTree) (place : Place) : Prop :=
  tree.node? place = none ∨ ∃ content, tree.node? place = some (.file content)

def TakesFile (tree : FileTree) (path : FilePath) : Prop :=
  ∃ place, tree.follow true 40 tree.here (FilePath.steps path) = .ok place ∧ tree.IsOpen place

section

variable {tree : FileTree} {place last : Place}

theorem IsOpen.ne_directory (free : tree.IsOpen last) : tree.node? last ≠ some .directory := by
  rcases free with missing | ⟨content, found⟩
  · simp [missing]
  · simp [found]

theorem IsOpen.ne_nil (free : tree.IsOpen last) : last ≠ [] := by
  intro top
  subst top
  exact free.ne_directory rfl

/-- Steps to the place of a new file lead to the file. -/
theorem IsOpen.take (free : tree.IsOpen last) (content : Bytes)
    {jump jumpToo : Place → List Component → Except OsError Place}
    (jumps : ∀ place steps, jump place steps = .ok last → jumpToo place steps = .ok last)
    {steps : List Component} (taken : tree.take true jump place steps = .ok last) :
    (tree.put last (.file content)).take false jumpToo place steps = .ok last := by
  induction steps generalizing place with
  | nil => exact taken
  | cons step rest ih =>
    cases inside : tree.node? place with
    | none => simp [FileTree.take, inside] at taken
    | some node =>
      cases node with
      | file text => simp [FileTree.take, inside] at taken
      | link target => simp [FileTree.take, inside] at taken
      | directory =>
        have apart : place ≠ last := by
          rintro rfl
          exact free.ne_directory inside
        have kept := (node?_put_other tree apart (.file content)).trans inside
        cases step with
        | root =>
          simp only [FileTree.take, inside, kept] at taken ⊢
          exact ih taken
        | here =>
          simp only [FileTree.take, inside, kept] at taken ⊢
          exact ih taken
        | up =>
          simp only [FileTree.take, inside, kept] at taken ⊢
          exact ih taken
        | name name =>
          simp only [FileTree.take, inside, kept] at taken ⊢
          by_cases own : place ++ [name] = last
          · rw [own] at taken ⊢
            rw [node?_put_self tree free.ne_nil]
            have ends : rest = [] := by
              rcases free with missing | ⟨text, found⟩
              · rw [missing] at taken
                by_contra further
                simp [further] at taken
              · rw [found] at taken
                cases rest with
                | nil => rfl
                | cons further behind => simp [FileTree.take, found] at taken
            subst ends
            rfl
          · rw [node?_put_other tree own]
            cases found : tree.node? (place ++ [name]) with
            | none =>
              rw [found] at taken
              by_cases ends : rest = []
              · exact absurd (by simpa [ends] using taken) own
              · simp [ends] at taken
            | some node =>
              rw [found] at taken
              cases node with
              | link target => exact jumps _ _ taken
              | file text => exact ih taken
              | directory => exact ih taken

theorem IsOpen.follow (free : tree.IsOpen last) (content : Bytes) {links : Nat}
    {steps : List Component} (followed : tree.follow true links place steps = .ok last) :
    (tree.put last (.file content)).follow false links place steps = .ok last := by
  induction links generalizing place steps with
  | zero => exact free.take content (fun _ _ => id) followed
  | succ links ih => exact free.take content (fun _ _ => ih) followed

end

theorem TakesFile.write {tree : FileTree} {path : FilePath} (takes : tree.TakesFile path)
    (content : Bytes) : ∃ after, tree.write path content = .ok after ∧
      (path ≠ "" → after.read path = .ok content) := by
  obtain ⟨place, followed, free⟩ := takes
  refine ⟨tree.put place (.file content), ?_, fun some => ?_⟩
  · rw [FileTree.write, followed]
    rcases free with missing | ⟨text, found⟩
    · simp [bind, Except.bind, missing]
    · simp [bind, Except.bind, found]
  · have resolved : (tree.put place (.file content)).resolve path = .ok place := by
      rw [resolve, if_neg some]
      exact free.follow content followed
    exact read_of_resolve resolved (node?_put_self tree free.ne_nil _)

theorem Grows.read {tree later : FileTree} (grows : tree.Grows later) {path : FilePath}
    {content : Bytes} (read : tree.read path = .ok content) : later.read path = .ok content := by
  obtain ⟨place, resolved, found⟩ := resolve_of_read read
  exact read_of_resolve (grows.resolve resolved) (grows.kept _ _ found)

end PythonDocs.FileTree
