import PythonDocs.Proofs.Extraction.Listing

namespace PythonDocs

inductive Statement.Records : Statement → Symbol → Prop
  | classDef (name source : String) (body : Outline) (methods : List Symbol) :
    Records (.classDef name source body) { Symbol.ofClass name source with methods }
  | functionDef {kind : SymbolKind} (other : kind ≠ .class) (header : FunctionHeader)
      (body : Outline) : Records (.functionDef header body) (.ofFunction kind header)

namespace Statement

variable {statement : Statement} {around : Surroundings} {address : Address}

theorem around_of_body
    (below : ∀ site ∈ sitesAll ((address, statement) :: around) address 0 statement.body,
      ∀ outer ∈ site.around, outer ∈ (address, statement) :: around ∨
        ∃ place ∈ sitesAll ((address, statement) :: around) address 0 statement.body,
          (place.address, place.statement) = outer) :
    ∀ site ∈ statement.sites around address, ∀ outer ∈ site.around, outer ∈ around ∨
      ∃ place ∈ statement.sites around address, (place.address, place.statement) = outer := by
  rw [sites_eq]
  intro site member outer inside
  rcases List.mem_cons.mp member with rfl | member
  · exact .inl inside
  · rcases below site member outer inside with own | ⟨place, stands, same⟩
    · rcases List.mem_cons.mp own with rfl | own
      · exact .inr ⟨_, List.mem_cons_self, rfl⟩
      · exact .inl own
    · exact .inr ⟨place, List.mem_cons_of_mem _ stands, same⟩

mutual

theorem around_of_sites (around : Surroundings) (address : Address) : (statement : Statement) →
    ∀ site ∈ statement.sites around address, ∀ outer ∈ site.around, outer ∈ around ∨
      ∃ place ∈ statement.sites around address, (place.address, place.statement) = outer
  | .imports _ | .importFrom _ => around_of_body (List.forall_mem_nil _)
  | .classDef _ _ body | .functionDef _ body | .group body =>
    around_of_body (around_of_sitesAll _ _ _ body)

theorem around_of_sitesAll (around : Surroundings) (address : Address) (index : Nat) :
    (body : List Statement) → ∀ site ∈ sitesAll around address index body, ∀ outer ∈ site.around,
      outer ∈ around ∨
        ∃ place ∈ sitesAll around address index body, (place.address, place.statement) = outer
  | [], site, member, _, _ => by cases member
  | statement :: rest, site, member, outer, inside => by
    rcases List.mem_append.mp member with member | member
    · refine (around_of_sites around _ statement site member outer inside).imp_right ?_
      rintro ⟨place, stands, same⟩
      exact ⟨place, List.mem_append_left _ stands, same⟩
    · refine (around_of_sitesAll around address (index + 1) rest site member outer inside).imp_right ?_
      rintro ⟨place, stands, same⟩
      exact ⟨place, List.mem_append_right _ stands, same⟩

end

end Statement

namespace Site

variable {nested : NestedFunctions} {site : Site} {symbol : Symbol}

theorem records_of_method? {owner : Option Address}
    (given : site.method? nested owner = some symbol) : site.statement.Records symbol := by
  unfold method? at given
  split at given
  · rename_i header body statement
    split at given
    · cases given
      rw [statement]
      exact .functionDef (by decide) header body
    · cases given
  · cases given

theorem records_of_symbol? {sites : List Site} (given : site.symbol? nested sites = some symbol) :
    site.statement.Records symbol ∧
      ∀ method ∈ symbol.methods, ∃ owner, method ∈ methods nested sites owner := by
  unfold symbol? at given
  split at given
  · rename_i name source body statement
    cases given
    rw [statement]
    exact ⟨.classDef name source body _, fun method member => ⟨_, member⟩⟩
  · rename_i header body statement
    split at given
    · cases given
      rw [statement]
      exact ⟨.functionDef (by decide) header body, List.forall_mem_nil _⟩
    · cases given
  · cases given

theorem isRecorded_flatten (site : Site) : site.isRecorded .flatten = true := rfl

end Site

namespace Outline

variable {nested : NestedFunctions} {outline : Outline} {found : ModuleSymbols}

theorem records_of_symbols (walked : outline.symbols nested = .ok found) :
    ∀ symbol ∈ Symbol.withMethods found.symbols,
      ∃ site ∈ outline.sites, site.statement.Records symbol := by
  obtain ⟨other, same, listed⟩ := symbols_walked nested (isNamed_of_symbols walked)
  cases walked.symm.trans same
  intro symbol member
  obtain ⟨top, inside, own⟩ := List.mem_flatMap.mp member
  rw [listed] at inside
  obtain ⟨site, place, given⟩ := List.mem_filterMap.mp inside
  obtain ⟨records, methods⟩ := Site.records_of_symbol? given
  rcases List.mem_cons.mp own with rfl | own
  · exact ⟨site, place, records⟩
  · obtain ⟨owner, method⟩ := methods symbol own
    obtain ⟨other, place, given⟩ := List.mem_filterMap.mp method
    exact ⟨other, place, Site.records_of_method? given⟩

theorem exists_owner {site : Site} (member : site ∈ outline.sites) {address : Address}
    (owned : site.owner? = some address) :
    ∃ name source body place, place ∈ outline.sites ∧ place.address = address ∧
      place.statement = .classDef name source body := by
  obtain ⟨outer, closest, rfl⟩ := Option.map_eq_some_iff.mp owned
  have isClass := List.find?_some closest
  rcases Statement.around_of_sitesAll [] [] 0 outline site member outer
    (List.mem_of_find?_eq_some closest) with none | ⟨place, stands, rfl⟩
  · cases none
  · cases statement : place.statement with
    | classDef name source body => exact ⟨name, source, body, place, stands, rfl, statement⟩
    | _ => rw [statement] at isClass; cases isClass

theorem exists_symbol (walked : outline.symbols .flatten = .ok found) {site : Site}
    (member : site ∈ outline.sites) {header : FunctionHeader} {body : Outline}
    (function : site.statement = .functionDef header body) :
    ∃ kind, kind ≠ .class ∧ .ofFunction kind header ∈ Symbol.withMethods found.symbols := by
  obtain ⟨other, same, listed⟩ := symbols_walked .flatten (isNamed_of_symbols walked)
  cases walked.symm.trans same
  cases owned : site.owner? with
  | none =>
    have given : site.symbol? .flatten outline.sites = some (.ofFunction .function header) := by
      simp [Site.symbol?, function, Site.isRecorded_flatten, owned]
    refine ⟨.function, by decide, List.mem_flatMap.mpr ⟨_, ?_, List.mem_cons_self⟩⟩
    exact listed ▸ List.mem_filterMap.mpr ⟨site, member, given⟩
  | some address =>
    have given : site.method? .flatten (some address) = some (.ofFunction .method header) := by
      simp [Site.method?, function, Site.isRecorded_flatten, owned]
    obtain ⟨name, source, _, place, stands, rfl, isClass⟩ := exists_owner member owned
    have owner : place.symbol? .flatten outline.sites = some { Symbol.ofClass name source with
        methods := Site.methods .flatten outline.sites (some place.address) } := by
      simp [Site.symbol?, isClass]
    have inside : .ofFunction .method header ∈
        Site.methods .flatten outline.sites (some place.address) :=
      List.mem_filterMap.mpr ⟨site, member, given⟩
    rw [listed]
    have top := List.mem_filterMap.mpr ⟨place, stands, owner⟩
    exact ⟨.method, by decide, List.mem_flatMap.mpr ⟨_, top, List.mem_cons_of_mem _ inside⟩⟩

end Outline

end PythonDocs
