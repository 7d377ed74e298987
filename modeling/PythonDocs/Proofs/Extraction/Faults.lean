import PythonDocs.Failure
import PythonDocs.Proofs.Extraction.Contents

namespace PythonDocs

inductive Statement.Lacks : Statement → MalformedOutline → Prop
  | classDef (source : String) (body : Outline) : Lacks (.classDef "" source body) .unnamedClass
  | functionDef {header : FunctionHeader} (nameless : header.name = "") (body : Outline) :
    Lacks (.functionDef header body) .unnamedFunction

namespace Statement

variable {statement : Statement} {problem : MalformedOutline}

theorem Lacks.name?_eq (lacks : statement.Lacks problem) : statement.name? = some "" := by
  cases lacks with
  | classDef => rfl
  | functionDef nameless => exact congrArg some nameless

theorem Lacks.message_eq (lacks : statement.Lacks problem) :
    (Failure.malformed problem).message = "Malformed syntax tree: "
      ++ (if statement.isClass then "class" else "function") ++ " definition without a name" := by
  cases lacks <;> rfl

end Statement

namespace Site

variable {site : Site} {sites : List Site} {problem : MalformedOutline}

theorem fault?_eq_some_iff : site.fault? = some problem ↔ site.statement.Lacks problem := by
  unfold fault?
  constructor
  · intro fault
    split at fault
    · rename_i name source body same
      split at fault
      · rename_i nameless
        cases fault
        rw [same, nameless]
        exact .classDef source body
      · cases fault
    · rename_i header body same
      split at fault
      · rename_i nameless
        cases fault
        rw [same]
        exact .functionDef nameless body
      · cases fault
    · cases fault
  · intro lacks
    cases given : site.statement with
    | classDef name source body =>
      rw [given] at lacks
      cases lacks
      rfl
    | functionDef header body =>
      rw [given] at lacks
      cases lacks with
      | functionDef nameless => exact if_pos nameless
    | _ =>
      rw [given] at lacks
      cases lacks

theorem findSome?_fault?_eq_some_iff : sites.findSome? fault? = some problem ↔
    ∃ before statement behind, sites.map Site.statement = before ++ statement :: behind ∧
      (∀ earlier ∈ before, earlier.name? ≠ some "") ∧ statement.Lacks problem := by
  rw [List.findSome?_eq_some_iff]
  constructor
  · intro given
    obtain ⟨before, site, behind, rfl, fault, earlier⟩ := given
    refine ⟨before.map Site.statement, site.statement, behind.map Site.statement, by simp, ?_,
      fault?_eq_some_iff.mp fault⟩
    rw [List.forall_mem_map]
    exact fun other member => fault?_eq_none_iff.mp (earlier other member)
  · intro given
    obtain ⟨before, statement, behind, split, earlier, lacks⟩ := given
    obtain ⟨first, rest, rfl, rfl, further⟩ := List.map_eq_append_iff.mp split
    obtain ⟨site, last, rfl, rfl, rfl⟩ := List.map_eq_cons_iff.mp further
    refine ⟨first, site, last, rfl, fault?_eq_some_iff.mpr lacks, ?_⟩
    rw [List.forall_mem_map] at earlier
    exact fun other member => fault?_eq_none_iff.mpr (earlier other member)

end Site

namespace Outline

variable {nested : NestedFunctions} {outline : Outline} {problem : MalformedOutline}

theorem symbols_eq_error_iff : outline.symbols nested = .error problem ↔
    outline.sites.findSome? Site.fault? = some problem := by
  constructor
  · intro failed
    cases fault : outline.sites.findSome? Site.fault? with
    | none =>
      obtain ⟨found, walked, -⟩ := symbols_walked nested (Site.allNamed_iff.mpr fault)
      cases failed.symm.trans walked
    | some other =>
      have stopped := symbols_of_fault nested fault
      cases failed.symm.trans stopped
      rfl
  · exact symbols_of_fault nested

theorem symbols_eq_error_iff_lacks : outline.symbols nested = .error problem ↔
    ∃ before statement behind, Statement.withinAll outline = before ++ statement :: behind ∧
      (∀ earlier ∈ before, earlier.name? ≠ some "") ∧ statement.Lacks problem := by
  rw [symbols_eq_error_iff, Site.findSome?_fault?_eq_some_iff, sites, Statement.statement_sitesAll]

/-- An extraction fails exactly where some definition of the outline has no name, whether nested
functions are listed or not. The first such definition in the order of the source tells why, and no
method is ever without its class. -/
theorem symbols_fail_at_first (nested : NestedFunctions) (outline : Outline) :
    ((∃ problem, outline.symbols nested = .error problem) ↔
        ∃ statement ∈ Statement.withinAll outline, statement.name? = some "") ∧
      (∀ problem, outline.symbols nested = .error problem ↔
        ∃ before statement behind, Statement.withinAll outline = before ++ statement :: behind ∧
          (∀ earlier ∈ before, earlier.name? ≠ some "") ∧ statement.Lacks problem ∧
          (Failure.malformed problem).message = "Malformed syntax tree: "
            ++ (if statement.isClass then "class" else "function")
            ++ " definition without a name") ∧
      ∀ name, outline.symbols nested ≠ .error (.strayMethod name) := by
  refine ⟨⟨?_, ?_⟩, fun problem => symbols_eq_error_iff_lacks.trans ?_, ?_⟩
  · intro given
    obtain ⟨problem, failed⟩ := given
    obtain ⟨before, statement, behind, split, -, lacks⟩ := symbols_eq_error_iff_lacks.mp failed
    exact ⟨statement, by simp [split], lacks.name?_eq⟩
  · intro given
    obtain ⟨statement, member, nameless⟩ := given
    cases walked : outline.symbols nested with
    | error problem => exact ⟨problem, rfl⟩
    | ok found => exact absurd nameless (isNamed_iff.mp (isNamed_of_symbols walked) _ member)
  · constructor
    · intro given
      obtain ⟨before, statement, behind, split, earlier, lacks⟩ := given
      exact ⟨before, statement, behind, split, earlier, lacks, lacks.message_eq⟩
    · intro given
      obtain ⟨before, statement, behind, split, earlier, lacks, -⟩ := given
      exact ⟨before, statement, behind, split, earlier, lacks⟩
  · intro name failed
    obtain ⟨_, _, _, _, _, lacks⟩ := symbols_eq_error_iff_lacks.mp failed
    cases lacks

/-- A class without a name in a function that is not listed, before a function without one. -/
example : symbols .omit
    [.functionDef { name := "f" } [.functionDef { name := "g" } [.classDef "" "" []]],
      .functionDef { name := "" } []] = .error .unnamedClass := rfl

end Outline

end PythonDocs
