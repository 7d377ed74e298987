import Mathlib.Data.List.Forall2
import PythonDocs.Proofs.Extraction.Contents

namespace PythonDocs

namespace Statement

mutual

/-- Makes a group of each function inside of another one with no class between them. With
`inFunction` such a function is around the statement. -/
def pruned (inFunction : Bool) : Statement → Statement
  | .imports names => .imports names
  | .importFrom module => .importFrom module
  | .classDef name source body => .classDef name source (prunedAll false body)
  | .functionDef header body =>
    if inFunction then .group (prunedAll true body)
    else .functionDef header (prunedAll true body)
  | .group body => .group (prunedAll inFunction body)

def prunedAll (inFunction : Bool) : List Statement → List Statement
  | [] => []
  | statement :: rest => statement.pruned inFunction :: prunedAll inFunction rest

end

end Statement

def Outline.pruned (outline : Outline) : Outline := Statement.prunedAll false outline

mutual

/-- A walk that skips nested functions goes as one over the pruned statement that keeps them. -/
theorem visit_pruned : (statement : Statement) → (scope : Scope) → (found : ModuleSymbols) →
    Outline.IsNamed [statement] →
    visit .omit scope found statement =
      visit .flatten scope found (statement.pruned scope.inFunction)
  | .imports _, _, _, _ => rfl
  | .importFrom _, _, _, _ => rfl
  | .classDef name source body, scope, found, named => by
    obtain ⟨hasName, inner⟩ := (Outline.isNamed_class body name source).mp named
    rw [Statement.pruned, visit, visit, if_neg hasName, if_neg hasName]
    exact visitAll_pruned body _ _ inner
  | .functionDef header body, scope, found, named => by
    obtain ⟨hasName, inner⟩ := (Outline.isNamed_function body header).mp named
    have further (found : ModuleSymbols) :=
      visitAll_pruned body { scope with inFunction := true } found inner
    rw [visit, if_neg hasName]
    cases inside : scope.inFunction with
    | true =>
      have same : { scope with inFunction := true } = scope := by rw [← inside]
      rw [same, inside] at further
      simpa [Statement.pruned, visit, same] using further found
    | false =>
      simp only [Statement.pruned, visit, hasName, inside, Bool.false_eq_true, ↓reduceIte,
        Bool.false_and]
      cases found.addFunction scope header with
      | ok after => exact further after
      | error problem => rfl
  | .group body, scope, found, named => by
    rw [Statement.pruned, visit, visit]
    exact visitAll_pruned body scope found ((Outline.isNamed_group body).mp named)

theorem visitAll_pruned : (body : List Statement) → (scope : Scope) → (found : ModuleSymbols) →
    Outline.IsNamed body →
    visitAll .omit scope found body =
      visitAll .flatten scope found (Statement.prunedAll scope.inFunction body)
  | [], _, _, _ => rfl
  | statement :: rest, scope, found, named => by
    obtain ⟨first, others⟩ := (Outline.isNamed_append [statement] rest).mp named
    rw [Statement.prunedAll, visitAll, visitAll, visit_pruned statement scope found first]
    cases visit .flatten scope found (statement.pruned scope.inFunction) with
    | ok after => exact visitAll_pruned rest scope after others
    | error problem => rfl

end

structure Symbol.Trims (trimmed whole : Symbol) : Prop where
  same : trimmed = { whole with methods := trimmed.methods }
  methods : trimmed.methods.Sublist whole.methods

namespace Site

theorem methods_omit (sites : List Site) (owner : Option Address) :
    methods .omit sites owner = methods .flatten (sites.filter (isRecorded .omit)) owner := by
  rw [methods, methods, List.filterMap_filter]
  refine List.filterMap_congr fun site _ => ?_
  cases recorded : site.isRecorded .omit <;> cases given : site.statement <;>
    simp [method?, recorded, given, isRecorded_flatten]

theorem methods_omit_sublist (sites : List Site) (owner : Option Address) :
    (methods .omit sites owner).Sublist (methods .flatten sites owner) := by
  rw [methods_omit]
  exact List.filter_sublist.filterMap _

theorem trims_of_symbol?_omit {sites : List Site} {site : Site} {trimmed : Symbol}
    (listed : site.symbol? .omit sites = some trimmed) :
    ∃ whole, site.symbol? .flatten sites = some whole ∧ trimmed.Trims whole := by
  unfold symbol? at listed
  split at listed
  · rename_i name source body given
    cases listed
    refine ⟨{ Symbol.ofClass name source with methods := methods .flatten sites _ }, ?_, rfl,
      methods_omit_sublist sites _⟩
    simp only [symbol?, given]
  · rename_i header body given
    split at listed
    · rename_i recorded
      cases listed
      refine ⟨.ofFunction .function header, ?_, rfl, List.Sublist.refl _⟩
      simp [symbol?, given, isRecorded_flatten, recorded.2]
    · cases listed
  · cases listed

end Site

theorem sublistForall₂_filterMap {α β : Type} {related : β → β → Prop} {first second : α → Option β}
    {items : List α}
    (kept : ∀ item ∈ items, ∀ value, first item = some value →
      ∃ other, second item = some other ∧ related value other) :
    List.SublistForall₂ related (items.filterMap first) (items.filterMap second) := by
  induction items with
  | nil => exact .nil
  | cons item rest ih =>
    have others := ih fun other member => kept other (List.mem_cons_of_mem _ member)
    cases left : first item with
    | some value =>
      obtain ⟨other, right, same⟩ := kept item List.mem_cons_self value left
      rw [List.filterMap_cons_some left, List.filterMap_cons_some right]
      exact .cons same others
    | none =>
      rw [List.filterMap_cons_none left]
      cases right : second item with
      | some other =>
        rw [List.filterMap_cons_some right]
        exact .cons_right others
      | none =>
        rw [List.filterMap_cons_none right]
        exact others

namespace Site

theorem symbols_omit (sites : List Site) :
    List.SublistForall₂ Symbol.Trims (symbols .omit sites) (symbols .flatten sites) :=
  sublistForall₂_filterMap fun _ _ _ listed => trims_of_symbol?_omit listed

theorem filter_symbol?_function {nested : NestedFunctions} {sites : List Site} {site : Site}
    (other : site.statement.isClass = false) :
    (site.symbol? nested sites).filter Symbol.isClass = none := by
  unfold symbol?
  split
  · rename_i given
    rw [given] at other
    cases other
  · split <;> rfl
  · rfl

theorem classes_omit (sites : List Site) :
    List.Forall₂ Symbol.Trims ((symbols .omit sites).filter Symbol.isClass)
      ((symbols .flatten sites).filter Symbol.isClass) := by
  have alike (site : Site) : Option.Rel Symbol.Trims
      ((site.symbol? .omit sites).filter Symbol.isClass)
      ((site.symbol? .flatten sites).filter Symbol.isClass) := by
    cases isClass : site.statement.isClass with
    | false =>
      rw [filter_symbol?_function isClass, filter_symbol?_function isClass]
      exact .none
    | true =>
      cases given : site.statement with
      | classDef name source body =>
        simp only [symbol?, given]
        exact .some ⟨rfl, methods_omit_sublist sites _⟩
      | _ =>
        rw [given] at isClass
        cases isClass
  have same : List.Forall₂ Eq sites sites := List.forall₂_same.mpr fun _ _ => rfl
  rw [symbols, symbols, List.filter_filterMap, List.filter_filterMap]
  exact List.rel_filterMap (fun {first second} equal => equal ▸ alike first) same

end Site

namespace Outline

/-- Leaving out nested functions is pruning the outline. It changes no dependency and no class, and
what is still listed, for the module and for each class, is part of what is listed otherwise. -/
theorem symbols_omit_eq (outline : Outline) (named : outline.IsNamed) :
    outline.symbols .omit = outline.pruned.symbols .flatten ∧
      ∃ trimmed whole, outline.symbols .omit = .ok trimmed ∧
        outline.symbols .flatten = .ok whole ∧
        trimmed.dependencies = whole.dependencies ∧
        List.Forall₂ Symbol.Trims (trimmed.symbols.filter Symbol.isClass)
          (whole.symbols.filter Symbol.isClass) ∧
        List.SublistForall₂ Symbol.Trims trimmed.symbols whole.symbols := by
  obtain ⟨trimmed, walked, listed⟩ := symbols_walked .omit named
  obtain ⟨whole, walkedToo, listedToo⟩ := symbols_walked .flatten named
  refine ⟨visitAll_pruned outline {} .empty named, trimmed, whole, walked, walkedToo, ?_, ?_, ?_⟩
  · rw [visitAll_dependencies outline walked, visitAll_dependencies outline walkedToo]
  · rw [listed, listedToo]
    exact Site.classes_omit outline.sites
  · rw [listed, listedToo]
    exact Site.symbols_omit outline.sites

end Outline

def nestedFunctions : Outline :=
  [.classDef "A" "class A"
      [.functionDef { name := "f" }
        [.functionDef { name := "g" }
          [.imports ["os.path"], .classDef "B" "class B" [.functionDef { name := "h" } []]]]],
    .functionDef { name := "k" } [.group [.functionDef { name := "l" } []]]]

theorem nestedFunctions_omit :
    nestedFunctions.IsNamed ∧
      nestedFunctions.symbols .omit = nestedFunctions.pruned.symbols .flatten ∧
      ∃ trimmed whole, nestedFunctions.symbols .omit = .ok trimmed ∧
        nestedFunctions.symbols .flatten = .ok whole ∧
        trimmed.dependencies = whole.dependencies ∧ trimmed.dependencies.names = ["os"] ∧
        trimmed.symbols.map (fun symbol => (symbol.name, symbol.methods.map Symbol.name)) =
          [("A", ["f"]), ("B", ["h"]), ("k", [])] ∧
        whole.symbols.map (fun symbol => (symbol.name, symbol.methods.map Symbol.name)) =
          [("A", ["f", "g"]), ("B", ["h"]), ("k", []), ("l", [])] := by
  have named : nestedFunctions.IsNamed := by decide
  obtain ⟨same, trimmed, whole, walked, walkedToo, dependencies, -, -⟩ :=
    Outline.symbols_omit_eq nestedFunctions named
  refine ⟨named, same, trimmed, whole, walked, walkedToo, dependencies, ?_⟩
  cases walked
  cases walkedToo
  exact ⟨by decide, rfl, rfl⟩

end PythonDocs
