import PythonDocs.Run

namespace PythonDocs

structure SourceModule where
  path : FilePath
  found : ModuleSymbols

/-- What became of the files of a run, in their order. -/
abbrev Ledger := List (FilePath × Fate)

namespace SourceModule

def name (base : List Component) (module : SourceModule) : String :=
  ModuleName.seenFrom base module.path

def target (base : List Component) (output : FilePath) (module : SourceModule) : FilePath :=
  FilePath.join output (module.name base ++ ".md")

def size (module : SourceModule) : Nat := (Symbol.withMethods module.found.symbols).length

end SourceModule

namespace Ledger

def modules (ledger : Ledger) : List SourceModule :=
  ledger.filterMap fun
    | (path, .documented found) => some ⟨path, found⟩
    | (_, .skipped _) => none

def skipped (ledger : Ledger) : List (FilePath × String) :=
  ledger.filterMap fun
    | (_, .documented _) => none
    | (path, .skipped reason) => some (path, reason)

variable {ledger : Ledger} {path : FilePath} {found : ModuleSymbols} {reason : String}

theorem modules_documented :
    modules ((path, .documented found) :: ledger) = ⟨path, found⟩ :: ledger.modules := rfl

theorem modules_skipped : modules ((path, .skipped reason) :: ledger) = ledger.modules := rfl

theorem skipped_documented : skipped ((path, .documented found) :: ledger) = ledger.skipped := rfl

theorem skipped_skipped :
    skipped ((path, .skipped reason) :: ledger) = (path, reason) :: ledger.skipped := rfl

theorem modules_append (first second : Ledger) :
    modules (first ++ second) = modules first ++ modules second := List.filterMap_append

theorem skipped_append (first second : Ledger) :
    skipped (first ++ second) = skipped first ++ skipped second := List.filterMap_append

theorem split_modules {module : SourceModule} {before later : List SourceModule}
    (split : ledger.modules = before ++ module :: later) :
    ∃ first rest, ledger = first ++ (module.path, .documented module.found) :: rest ∧
      modules first = before := by
  induction ledger generalizing before with
  | nil => simp [modules] at split
  | cons entry rest ih =>
    obtain ⟨path, reason | found⟩ := entry
    · obtain ⟨first, others, rfl, listed⟩ := ih split
      exact ⟨(path, .skipped reason) :: first, others, rfl, listed⟩
    · rw [modules_documented] at split
      cases before with
      | nil =>
        cases split
        exact ⟨[], rest, rfl, rfl⟩
      | cons other before =>
        rw [List.cons_append, List.cons.injEq] at split
        obtain ⟨rfl, split⟩ := split
        obtain ⟨first, others, rfl, listed⟩ := ih split
        exact ⟨(path, .documented found) :: first, others, rfl, congrArg _ listed⟩

theorem mem_modules {module : SourceModule} :
    module ∈ ledger.modules ↔ (module.path, .documented module.found) ∈ ledger := by
  rw [modules, List.mem_filterMap]
  constructor
  · intro given
    obtain ⟨⟨path, fate⟩, member, given⟩ := given
    cases fate with
    | skipped reason => cases given
    | documented found =>
      cases given
      exact member
  · intro member
    exact ⟨_, member, rfl⟩

theorem length_modules_skipped (ledger : Ledger) :
    ledger.modules.length + ledger.skipped.length = ledger.length := by
  induction ledger with
  | nil => rfl
  | cons entry rest ih =>
    obtain ⟨path, _ | _⟩ := entry
    · rw [modules_skipped, skipped_skipped, List.length_cons, List.length_cons]
      omega
    · rw [modules_documented, skipped_documented, List.length_cons, List.length_cons]
      omega

theorem skipped_sublist (ledger : Ledger) :
    (ledger.skipped.map Prod.fst).Sublist (ledger.map Prod.fst) := by
  induction ledger with
  | nil => exact .slnil
  | cons entry rest ih =>
    obtain ⟨path, _ | _⟩ := entry
    · exact ih.cons_cons _
    · exact ih.cons _

def claims (base : List Component) (ledger : Ledger) : List (String × FilePath) :=
  ledger.modules.map fun module => (module.name base, module.path)

theorem claims_append (base : List Component) (first second : Ledger) :
    claims base (first ++ second) = claims base first ++ claims base second := by
  rw [claims, modules_append, List.map_append]
  rfl

end Ledger

end PythonDocs
