import PythonDocs.Proofs.FilePath.Below

namespace PythonDocs

namespace FileTree

def HasNoLinks (tree : FileTree) : Prop := ∀ place target, tree.node? place ≠ some (.link target)

theorem noLinks_of_nodes {tree : FileTree}
    (plain : ∀ entry ∈ tree.nodes, ∀ target, entry.2 ≠ .link target) : tree.HasNoLinks := by
  intro place target found
  unfold node? at found
  split at found
  · cases found
  · obtain ⟨front, back, split, -⟩ := List.lookup_eq_some_iff.mp found
    exact plain (place, .link target) (by simp [split]) target rfl

structure IsFormed (tree : FileTree) : Prop where
  distinct : (tree.nodes.map Prod.fst).Nodup
  named : ∀ entry ∈ tree.nodes, ∀ name ∈ entry.1, IsFileName name

structure IsPlain (tree : FileTree) : Prop where
  noLinks : tree.HasNoLinks
  distinct : (tree.nodes.map Prod.fst).Nodup
  named : ∀ entry ∈ tree.nodes, ∀ name ∈ entry.1, IsFileName name
  here : tree.node? tree.here = some .directory

theorem IsPlain.formed {tree : FileTree} (plain : tree.IsPlain) : tree.IsFormed :=
  ⟨plain.distinct, plain.named⟩

end FileTree

def Place.step (place : Place) : Component → Place
  | .root => []
  | .here => place
  | .up => place.dropLast
  | .name name => place ++ [name]

namespace FileTree

/-- Steps lead from a place to another through directories and entries that are there. -/
inductive Leads (tree : FileTree) : Place → List Component → Place → Prop
  | done (place : Place) : Leads tree place [] place
  | step {place last : Place} {step : Component} {rest : List Component}
      (inside : tree.node? place = some .directory)
      (present : ∀ name, step = .name name → tree.node? (place ++ [name]) ≠ none)
      (further : Leads tree (place.step step) rest last) : Leads tree place (step :: rest) last

section

variable {tree : FileTree} {place last : Place}

theorem take_step (noLinks : tree.HasNoLinks) (creating : Bool)
    (jump : Place → List Component → Except OsError Place) {step : Component}
    (rest : List Component) (inside : tree.node? place = some .directory)
    (present : ∀ name, step = .name name → tree.node? (place ++ [name]) ≠ none) :
    tree.take creating jump place (step :: rest) =
      tree.take creating jump (place.step step) rest := by
  cases step with
  | root => simp only [take, inside, Place.step]
  | here => simp only [take, inside, Place.step]
  | up => simp only [take, inside, Place.step]
  | name name =>
    simp only [take, inside]
    split
    · exact absurd ‹_› (present name rfl)
    · exact absurd ‹_› (noLinks _ _)
    · rfl

theorem take_of_leads (noLinks : tree.HasNoLinks) {steps : List Component} (creating : Bool)
    (jump : Place → List Component → Except OsError Place) (leads : tree.Leads place steps last) :
    tree.take creating jump place steps = .ok last := by
  induction leads with
  | done => rfl
  | step inside present _ ih => rw [take_step noLinks creating jump _ inside present, ih]

theorem leads_of_take (noLinks : tree.HasNoLinks) {steps : List Component}
    {jump : Place → List Component → Except OsError Place}
    (taken : tree.take false jump place steps = .ok last) : tree.Leads place steps last := by
  induction steps generalizing place with
  | nil =>
    cases taken
    exact .done _
  | cons step rest ih =>
    cases node : tree.node? place with
    | none => simp [take, node] at taken
    | some found =>
      cases found with
      | file content => simp [take, node] at taken
      | link target => exact absurd node (noLinks _ _)
      | directory =>
        have present : ∀ name, step = .name name → tree.node? (place ++ [name]) ≠ none := by
          rintro name rfl missing
          simp [take, node, missing] at taken
        rw [take_step noLinks false jump rest node present] at taken
        exact .step node present (ih taken)

theorem follow_eq_ok_iff (noLinks : tree.HasNoLinks) {links : Nat} {steps : List Component} :
    tree.follow false links place steps = .ok last ↔ tree.Leads place steps last := by
  cases links <;> exact ⟨leads_of_take noLinks, take_of_leads noLinks false _⟩

theorem Leads.append {middle : Place} {steps more : List Component}
    (first : tree.Leads place steps middle) (second : tree.Leads middle more last) :
    tree.Leads place (steps ++ more) last := by
  induction first with
  | done => exact second
  | step inside present _ ih => exact .step inside present (ih second)

theorem Leads.split {steps more : List Component} (leads : tree.Leads place (steps ++ more) last) :
    ∃ middle, tree.Leads place steps middle ∧ tree.Leads middle more last := by
  induction steps generalizing place with
  | nil => exact ⟨place, .done place, leads⟩
  | cons step rest ih =>
    cases leads with
    | step inside present further =>
      obtain ⟨middle, first, second⟩ := ih further
      exact ⟨middle, .step inside present first, second⟩

theorem Leads.way {path : FilePath} (leads : tree.Leads place (FilePath.steps path) last) :
    tree.Leads place (FilePath.way path) last := by
  rw [FilePath.steps_eq] at leads
  obtain ⟨middle, first, second⟩ := leads.split
  split at second
  · cases second with
    | step _ _ further =>
      cases further
      exact first
  · cases second
    exact first

theorem follow_new (noLinks : tree.HasNoLinks) {links : Nat} {steps : List Component}
    (leads : tree.Leads place steps last) (inside : tree.node? last = some .directory)
    (name : String) :
    tree.follow true links place (steps ++ [.name name]) = .ok (last ++ [name]) := by
  have taken (jump : Place → List Component → Except OsError Place) :
      tree.take true jump place (steps ++ [.name name]) = .ok (last ++ [name]) := by
    induction leads with
    | done place =>
      simp only [List.nil_append, take, inside]
      split
      · simp
      · exact absurd ‹_› (noLinks _ _)
      · rfl
    | step insideToo present _ ih =>
      rw [List.cons_append, take_step noLinks true jump _ insideToo present]
      exact ih inside
  cases links <;> exact taken _

theorem follow_missing (noLinks : tree.HasNoLinks) (links : Nat) {steps : List Component}
    (leads : tree.Leads place steps last) (inside : tree.node? last = some .directory)
    {name : String} (missing : tree.node? (last ++ [name]) = none) :
    tree.follow false links place (steps ++ [.name name]) = .error .notFound := by
  have taken (jump : Place → List Component → Except OsError Place) :
      tree.take false jump place (steps ++ [.name name]) = .error .notFound := by
    induction leads with
    | done place => simp [take, inside, missing]
    | step insideToo present _ ih =>
      rw [List.cons_append, take_step noLinks false jump _ insideToo present]
      exact ih inside missing
  cases links <;> exact taken _

end

end FileTree

end PythonDocs
