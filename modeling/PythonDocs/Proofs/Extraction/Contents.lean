import PythonDocs.Proofs.Extraction.Records

namespace PythonDocs

namespace Statement

def source? : Statement → Option String
  | .classDef _ source _ => some source
  | .functionDef header _ => some header.source
  | _ => none

def modules : Statement → List String
  | .imports names => names
  | .importFrom module => module.toList
  | _ => []

mutual

def within : Statement → List Statement
  | .imports names => [.imports names]
  | .importFrom module => [.importFrom module]
  | .classDef name source body => .classDef name source body :: withinAll body
  | .functionDef header body => .functionDef header body :: withinAll body
  | .group body => .group body :: withinAll body

def withinAll : List Statement → List Statement
  | [] => []
  | statement :: rest => statement.within ++ withinAll rest

end

theorem Records.source?_eq {statement : Statement} {symbol : Symbol}
    (records : statement.Records symbol) : statement.source? = some symbol.source := by
  cases records <;> rfl

theorem withinAll_single (statement : Statement) : withinAll [statement] = statement.within :=
  List.append_nil _

theorem within_eq (statement : Statement) :
    statement.within = statement :: withinAll statement.body := by
  cases statement <;> rfl

theorem withinAll_append (first second : List Statement) :
    withinAll (first ++ second) = withinAll first ++ withinAll second := by
  induction first with
  | nil => rfl
  | cons statement rest ih =>
    exact (congrArg _ ih).trans (List.append_assoc ..).symm

mutual

theorem statement_sites (around : Surroundings) (address : Address) : (statement : Statement) →
    (statement.sites around address).map Site.statement = statement.within
  | .imports _ => rfl
  | .importFrom _ => rfl
  | .classDef _ _ body => congrArg _ (statement_sitesAll _ address 0 body)
  | .functionDef _ body => congrArg _ (statement_sitesAll _ address 0 body)
  | .group body => congrArg _ (statement_sitesAll _ address 0 body)

theorem statement_sitesAll (around : Surroundings) (address : Address) (index : Nat) :
    (body : List Statement) →
    (sitesAll around address index body).map Site.statement = withinAll body
  | [] => rfl
  | statement :: rest => by
    rw [sitesAll, List.map_append, statement_sites around _ statement,
      statement_sitesAll around address (index + 1) rest, withinAll]

end

end Statement

namespace Outline

def texts (outline : Outline) : List String := (Statement.withinAll outline).filterMap (·.source?)

def modules (outline : Outline) : List String := (Statement.withinAll outline).flatMap (·.modules)

theorem isNamed_iff {outline : Outline} : outline.IsNamed ↔
    ∀ statement ∈ Statement.withinAll outline, statement.name? ≠ some "" := by
  rw [← Statement.statement_sitesAll [] [] 0 outline, List.forall_mem_map]
  rfl

section

variable (first second body : Outline) (statement : Statement) (name source : String)
  (header : FunctionHeader)

theorem texts_append : texts (first ++ second) = first.texts ++ second.texts :=
  (congrArg _ (Statement.withinAll_append first second)).trans List.filterMap_append

theorem texts_single : texts [statement] = statement.within.filterMap (·.source?) :=
  congrArg _ (Statement.withinAll_single statement)

@[simp] theorem texts_class : texts [.classDef name source body] = source :: body.texts :=
  texts_single _

@[simp] theorem texts_function :
    texts [.functionDef header body] = header.source :: body.texts := texts_single _

@[simp] theorem texts_group : texts [.group body] = body.texts := texts_single _

theorem modules_append : modules (first ++ second) = first.modules ++ second.modules :=
  (congrArg _ (Statement.withinAll_append first second)).trans List.flatMap_append

theorem modules_single : modules [statement] = statement.within.flatMap (·.modules) :=
  congrArg _ (Statement.withinAll_single statement)

@[simp] theorem modules_imports (names : List String) : modules [.imports names] = names :=
  (modules_single _).trans (List.append_nil names)

@[simp] theorem modules_importFrom (module : Option String) :
    modules [.importFrom module] = module.toList :=
  (modules_single _).trans (List.append_nil module.toList)

@[simp] theorem modules_class : modules [.classDef name source body] = body.modules :=
  modules_single _

@[simp] theorem modules_function : modules [.functionDef header body] = body.modules :=
  modules_single _

@[simp] theorem modules_group : modules [.group body] = body.modules := modules_single _

theorem isNamed_append : IsNamed (first ++ second) ↔ first.IsNamed ∧ second.IsNamed := by
  rw [isNamed_iff, Statement.withinAll_append, List.forall_mem_append, isNamed_iff, isNamed_iff]

theorem isNamed_single :
    IsNamed [statement] ↔ ∀ inner ∈ statement.within, inner.name? ≠ some "" := by
  rw [isNamed_iff, Statement.withinAll_single]

theorem isNamed_of_body (nameless : statement.name? = none)
    (inside : statement.within = statement :: Statement.withinAll body) :
    IsNamed [statement] ↔ body.IsNamed := by
  rw [isNamed_single, inside, List.forall_mem_cons, nameless, isNamed_iff]
  exact and_iff_right nofun

theorem isNamed_of_name (named : statement.name? = some name)
    (inside : statement.within = statement :: Statement.withinAll body) :
    IsNamed [statement] ↔ name ≠ "" ∧ body.IsNamed := by
  rw [isNamed_single, inside, List.forall_mem_cons, named, isNamed_iff]
  exact and_congr_left' (Option.some_inj.not)

@[simp] theorem isNamed_class :
    IsNamed [.classDef name source body] ↔ name ≠ "" ∧ body.IsNamed :=
  isNamed_of_name _ _ _ rfl rfl

@[simp] theorem isNamed_function :
    IsNamed [.functionDef header body] ↔ header.name ≠ "" ∧ body.IsNamed :=
  isNamed_of_name _ _ _ rfl rfl

@[simp] theorem isNamed_group : IsNamed [.group body] ↔ body.IsNamed :=
  isNamed_of_body _ _ rfl rfl

theorem isNamed_imports (names : List String) : IsNamed [.imports names] :=
  (isNamed_of_body [] _ rfl rfl).mpr (isNamed_iff.mpr nofun)

theorem isNamed_importFrom (module : Option String) : IsNamed [.importFrom module] :=
  (isNamed_of_body [] _ rfl rfl).mpr (isNamed_iff.mpr nofun)

end

variable {outline : Outline} {nested : NestedFunctions} {found : ModuleSymbols}

theorem mem_texts_of_site {site : Site} {text : String} (member : site ∈ outline.sites)
    (given : site.statement.source? = some text) : text ∈ outline.texts := by
  refine List.mem_filterMap.mpr ⟨site.statement, ?_, given⟩
  rw [← Statement.statement_sitesAll [] [] 0 outline]
  exact List.mem_map_of_mem member

theorem source_mem_texts (walked : outline.symbols nested = .ok found) :
    ∀ symbol ∈ Symbol.withMethods found.symbols, symbol.source ∈ outline.texts := by
  intro symbol member
  obtain ⟨site, place, records⟩ := records_of_symbols walked symbol member
  exact mem_texts_of_site place records.source?_eq

end Outline

namespace Dependencies

def addAll (known : Dependencies) (paths : List String) : Dependencies :=
  paths.foldl (fun known path => (known.addRoot path).2) known

theorem addAll_append (known : Dependencies) (first second : List String) :
    known.addAll (first ++ second) = (known.addAll first).addAll second := List.foldl_append

theorem mem_addRoot {known : Dependencies} {path name : String} :
    name ∈ (known.addRoot path).2.names ↔
      name ∈ known.names ∨ name = root path ∧ name ≠ "" := by
  unfold addRoot
  simp only
  split
  · rename_i skipped
    rcases skipped with empty | present
    · grind
    · grind
  · rename_i added
    rw [mem_insert]
    grind

theorem mem_addAll {known : Dependencies} {paths : List String} {name : String} :
    name ∈ (known.addAll paths).names ↔
      name ∈ known.names ∨ name ≠ "" ∧ ∃ path ∈ paths, root path = name := by
  induction paths generalizing known with
  | nil => simp [addAll]
  | cons path rest ih =>
    have first : known.addAll (path :: rest) = (known.addRoot path).2.addAll rest := rfl
    simp only [first, ih, mem_addRoot, List.exists_mem_cons_iff]
    grind

end Dependencies

namespace ModuleSymbols

variable {found after : ModuleSymbols}

theorem addFunction_dependencies {scope : Scope} {header : FunctionHeader}
    (added : found.addFunction scope header = .ok after) :
    after.dependencies = found.dependencies := by
  unfold addFunction at added
  split at added
  · cases added
    rfl
  · split at added
    · rename_i given
      cases added
      unfold addMethod? at given
      split at given
      · cases given
        rfl
      · cases given
    · cases added

end ModuleSymbols

mutual

/-- A walk adds the roots of the imported modules, one after the other, and nothing else. -/
theorem visit_dependencies {nested : NestedFunctions} : (statement : Statement) →
    {scope : Scope} → {found after : ModuleSymbols} →
    visit nested scope found statement = .ok after →
    after.dependencies = found.dependencies.addAll (statement.within.flatMap (·.modules))
  | .imports names, scope, found, after, walked => by
    cases walked
    simp [Statement.within, Statement.modules, ModuleSymbols.addImports, Dependencies.addAll]
  | .importFrom module, scope, found, after, walked => by
    cases walked
    simp [Statement.within, Statement.modules, ModuleSymbols.addImports, Dependencies.addAll]
  | .classDef name source body, scope, found, after, walked => by
    unfold visit at walked
    split at walked
    · cases walked
    · have inner := visitAll_dependencies body walked
      exact inner
  | .functionDef header body, scope, found, after, walked => by
    unfold visit at walked
    split at walked
    · cases walked
    · simp only at walked
      split at walked
      · rename_i middle given
        have same : middle.dependencies = found.dependencies := by
          split at given
          · cases given
            rfl
          · exact ModuleSymbols.addFunction_dependencies given
        rw [← same]
        exact visitAll_dependencies body walked
      · cases walked
  | .group body, scope, found, after, walked => by
    unfold visit at walked
    exact visitAll_dependencies body walked

theorem visitAll_dependencies {nested : NestedFunctions} : (body : List Statement) →
    {scope : Scope} → {found after : ModuleSymbols} →
    visitAll nested scope found body = .ok after →
    after.dependencies =
      found.dependencies.addAll ((Statement.withinAll body).flatMap (·.modules))
  | [], scope, found, after, walked => by
    cases walked
    rfl
  | statement :: rest, scope, found, after, walked => by
    unfold visitAll at walked
    split at walked
    · rename_i middle given
      rw [visitAll_dependencies rest walked, visit_dependencies statement given,
        Statement.withinAll, List.flatMap_append, Dependencies.addAll_append]
    · cases walked

end

theorem Outline.mem_dependencies {outline : Outline} {nested : NestedFunctions}
    {found : ModuleSymbols} (walked : outline.symbols nested = .ok found) {name : String} :
    name ∈ found.dependencies.names ↔
      name ≠ "" ∧ ∃ path ∈ outline.modules, Dependencies.root path = name := by
  have same := visitAll_dependencies outline walked
  rw [same, Dependencies.mem_addAll]
  simp [ModuleSymbols.empty, Dependencies.names_empty, Outline.modules]

end PythonDocs
