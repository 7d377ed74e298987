import PythonDocs.Proofs.Extraction.Walk

namespace PythonDocs

def Scope.give (scope : Scope) (methods symbols : List Symbol) : List Symbol :=
  match scope.owner with
  | none => symbols
  | some index =>
    symbols.modify index fun owner => { owner with methods := owner.methods ++ methods }

def Scope.IsValid (scope : Scope) (symbols : List Symbol) : Prop :=
  ∀ index ∈ scope.owner, ∃ owner, symbols[index]? = some owner ∧ owner.isClass = true

namespace Scope

variable {scope : Scope} {symbols : List Symbol}

theorem give_nil (scope : Scope) (symbols : List Symbol) : scope.give [] symbols = symbols := by
  unfold give
  split
  · rfl
  · have same : (fun owner : Symbol => { owner with methods := owner.methods ++ [] }) = id := by
      funext owner
      cases owner
      simp
    rw [same, List.modify_id]

theorem give_give (scope : Scope) (first second symbols : List Symbol) :
    scope.give second (scope.give first symbols) = scope.give (first ++ second) symbols := by
  unfold give
  split
  · rfl
  · rw [List.modify_modify_eq]
    simp [Function.comp_def]

theorem IsValid.give_append (valid : scope.IsValid symbols) (methods added : List Symbol) :
    scope.give methods (symbols ++ added) = scope.give methods symbols ++ added := by
  unfold give
  split
  · rfl
  · rename_i index owned
    obtain ⟨owner, found, _⟩ := valid index owned
    obtain ⟨bound, _⟩ := List.getElem?_eq_some_iff.mp found
    have longer : index < (symbols ++ added).length := by
      rw [List.length_append]
      omega
    rw [List.modify_eq_take_cons_drop bound, List.modify_eq_take_cons_drop longer,
      List.take_append_of_le_length (by omega), List.drop_append_of_le_length (by omega),
      List.getElem_append_left bound]
    simp

theorem IsValid.after (valid : scope.IsValid symbols) (methods added : List Symbol) :
    scope.IsValid (scope.give methods symbols ++ added) := by
  intro index owned
  obtain ⟨owner, found, isClass⟩ := valid index owned
  have given : (scope.give methods symbols)[index]? =
      some { owner with methods := owner.methods ++ methods } := by
    simp [give, Option.mem_def.mp owned, found]
  obtain ⟨bound, _⟩ := List.getElem?_eq_some_iff.mp given
  refine ⟨{ owner with methods := owner.methods ++ methods }, ?_, isClass⟩
  rw [List.getElem?_append_left bound, given]

theorem IsValid.sequence (valid : scope.IsValid symbols)
    (methods listed moreMethods moreListed : List Symbol) :
    scope.give moreMethods (scope.give methods symbols ++ listed) ++ moreListed =
      scope.give (methods ++ moreMethods) symbols ++ (listed ++ moreListed) := by
  have given := valid.after methods []
  rw [List.append_nil] at given
  rw [given.give_append, give_give, List.append_assoc]

def Matches (scope : Scope) (around : Surroundings) : Prop :=
  scope.inFunction = around.hasFunction ∧ scope.owner.isSome = around.owner?.isSome

theorem matches_class (index : Nat) (address : Address) (name source : String)
    (body : List Statement) (around : Surroundings) :
    Matches { owner := some index } ((address, .classDef name source body) :: around) := by
  refine ⟨?_, ?_⟩
  · rw [Surroundings.hasFunction_cons_class _ _ rfl]
  · rw [Surroundings.owner?_cons_class _ _ rfl]
    rfl

theorem Matches.function {around : Surroundings} (stands : scope.Matches around)
    (address : Address) (header : FunctionHeader) (body : List Statement) :
    Matches { scope with inFunction := true } ((address, .functionDef header body) :: around) := by
  refine ⟨?_, ?_⟩
  · rw [Surroundings.hasFunction_cons_other _ _ rfl]
    rfl
  · rw [Surroundings.owner?_cons_other _ _ rfl]
    exact stands.2

theorem Matches.group {around : Surroundings} (stands : scope.Matches around)
    (address : Address) (body : List Statement) :
    scope.Matches ((address, .group body) :: around) := by
  refine ⟨?_, ?_⟩
  · rw [Surroundings.hasFunction_cons_other _ _ rfl]
    exact stands.1
  · rw [Surroundings.owner?_cons_other _ _ rfl]
    exact stands.2

end Scope

theorem ModuleSymbols.isValid_addClass (found : ModuleSymbols) (name source : String) :
    Scope.IsValid { owner := some found.symbols.length }
      (found.addSymbol (.ofClass name source)).symbols := by
  intro index given
  cases given
  exact ⟨.ofClass name source, by simp [addSymbol], rfl⟩

theorem ModuleSymbols.addMethod?_of_class {found : ModuleSymbols} {index : Nat} {owner : Symbol}
    (at_index : found.symbols[index]? = some owner) (isClass : owner.isClass = true)
    (method : Symbol) :
    ∃ after, found.addMethod? index method = some after ∧
      after.symbols = found.symbols.modify index fun owner =>
        { owner with methods := owner.methods ++ [method] } := by
  let given : Symbol := { owner with methods := owner.methods ++ [method] }
  refine ⟨{ found with symbols := found.symbols.set index given }, ?_, ?_⟩
  · simp only [addMethod?, at_index, Option.filter_some, isClass, ↓reduceIte, given]
  apply List.ext_getElem?
  intro other
  by_cases same : index = other
  · subst same
    obtain ⟨bound, at_place⟩ := List.getElem?_eq_some_iff.mp at_index
    simp [bound, at_place, given]
  · simp [same]

theorem ModuleSymbols.addFunction_of_valid {found : ModuleSymbols} {scope : Scope}
    (valid : scope.IsValid found.symbols) (header : FunctionHeader) :
    ∃ after, found.addFunction scope header = .ok after ∧
      after.symbols = scope.give [.ofFunction .method header] found.symbols ++
        if scope.owner = none then [.ofFunction .function header] else [] := by
  cases owned : scope.owner with
  | none =>
    refine ⟨found.addSymbol (.ofFunction .function header), by simp [addFunction, owned], ?_⟩
    simp [addSymbol, Scope.give, owned]
  | some index =>
    obtain ⟨owner, at_index, isClass⟩ := valid index owned
    obtain ⟨after, added, listed⟩ :=
      addMethod?_of_class at_index isClass (.ofFunction .method header)
    refine ⟨after, by simp [addFunction, owned, added], ?_⟩
    simp [listed, Scope.give, owned]

def Scope.Walked (scope : Scope) (nested : NestedFunctions) (around : Surroundings)
    (found : ModuleSymbols) (sites : List Site) (result : Except MalformedOutline ModuleSymbols) :
    Prop :=
  ∃ after, result = .ok after ∧
    after.symbols = scope.give (Site.methods nested sites around.owner?) found.symbols ++
      Site.symbols nested sites

/-- The step of a walk at a function, before its body. -/
theorem walk_function (nested : NestedFunctions) {scope : Scope} {around : Surroundings}
    {found : ModuleSymbols} (address : Address) (header : FunctionHeader) (body : List Statement)
    (valid : scope.IsValid found.symbols) (stands : scope.Matches around) :
    scope.Walked nested around found [⟨address, .functionDef header body, around⟩]
      (if scope.inFunction && nested = .omit then .ok found
        else found.addFunction scope header) := by
  have recorded : Site.isRecorded nested ⟨address, .functionDef header body, around⟩ =
      !(scope.inFunction && nested = .omit) := by
    rw [Site.isRecorded, stands.1]
    cases nested <;> simp
  cases skipped : scope.inFunction && nested = .omit with
  | true =>
    refine ⟨found, by simp, ?_⟩
    simp [Site.methods, Site.method?, Site.symbols, Site.symbol?, recorded, skipped,
      Scope.give_nil]
  | false =>
    obtain ⟨after, added, listed⟩ := ModuleSymbols.addFunction_of_valid valid header
    refine ⟨after, by simp [added], ?_⟩
    have top : scope.owner = none ↔ around.owner? = none := by
      rw [← Option.isNone_iff_eq_none, ← Option.isNone_iff_eq_none, ← Option.not_isSome,
        ← Option.not_isSome, stands.2]
    by_cases outside : around.owner? = none
    · simp [listed, top.mpr outside, outside, Site.methods, Site.method?, Site.symbols,
        Site.symbol?, Site.owner?, recorded, skipped]
    · simp [listed, mt top.mp outside, outside, Site.methods, Site.method?, Site.symbols,
        Site.symbol?, Site.owner?, recorded, skipped]

theorem walk_class (nested : NestedFunctions) (scope : Scope) {around : Surroundings}
    (found : ModuleSymbols) {address : Address} (shorter : around.ShorterThan address.length)
    (name source : String) (body : List Statement)
    {result : Except MalformedOutline ModuleSymbols} :
    let statement : Statement := .classDef name source body
    Scope.Walked { owner := some found.symbols.length } nested ((address, statement) :: around)
        (found.addSymbol (.ofClass name source))
        (Statement.sitesAll ((address, statement) :: around) address 0 body) result →
      scope.Walked nested around found (statement.sites around address) result := by
  intro statement ⟨after, walked, listed⟩
  refine ⟨after, walked, ?_⟩
  rw [Surroundings.owner?_cons_class _ _ rfl] at listed
  simp only [statement, Statement.sites]
  rw [Site.methods_cons_other _ _ rfl, Site.methods_of_class _ rfl shorter, Scope.give_nil,
    Site.symbols_cons_other _ _ rfl, listed]
  simp only [Scope.give, ModuleSymbols.addSymbol]
  rw [List.modify_eq_take_cons_drop (by simp)]
  simp [Site.symbol?, Symbol.ofClass, statement]

theorem walk_group (nested : NestedFunctions) (scope : Scope) {around : Surroundings}
    (found : ModuleSymbols) (address : Address) (body : List Statement)
    {result : Except MalformedOutline ModuleSymbols} :
    let statement : Statement := .group body
    scope.Walked nested ((address, statement) :: around) found
        (Statement.sitesAll ((address, statement) :: around) address 0 body) result →
      scope.Walked nested around found (statement.sites around address) result := by
  intro statement ⟨after, walked, listed⟩
  refine ⟨after, walked, ?_⟩
  rw [Surroundings.owner?_cons_other _ _ rfl] at listed
  simp only [statement, Statement.sites]
  rw [Site.methods_cons_other _ _ rfl, Site.symbols_cons_other _ _ rfl, listed]
  simp [Site.symbol?, statement]

theorem walk_import (nested : NestedFunctions) (scope : Scope) (around : Surroundings)
    (found : ModuleSymbols) (site : Site) (paths : List String)
    (noClass : site.statement.isClass = false) (noFunction : site.statement.isFunction = false) :
    scope.Walked nested around found [site] (.ok (found.addImports paths)) := by
  refine ⟨found.addImports paths, rfl, ?_⟩
  have nothing : Site.symbol? nested [] site = none := by
    unfold Site.symbol?
    split
    · rename_i same
      simp [same, Statement.isClass] at noClass
    · rename_i same
      simp [same, Statement.isFunction] at noFunction
    · rfl
  rw [Site.methods_cons_other _ _ noFunction, Site.symbols_cons_other _ _ noFunction, nothing]
  simp [Site.methods, Site.symbols, Scope.give_nil, ModuleSymbols.addImports]

mutual

theorem visit_walked (nested : NestedFunctions) : (statement : Statement) → (scope : Scope) →
    (around : Surroundings) → (address : Address) → (found : ModuleSymbols) →
    scope.IsValid found.symbols → scope.Matches around → around.ShorterThan address.length →
    Site.AllNamed (statement.sites around address) →
    scope.Walked nested around found (statement.sites around address)
      (visit nested scope found statement)
  | .imports names, scope, around, address, found, _, _, _, _ =>
    walk_import nested scope around found ⟨address, .imports names, around⟩ names rfl rfl
  | .importFrom module, scope, around, address, found, _, _, _, _ =>
    walk_import nested scope around found ⟨address, .importFrom module, around⟩ module.toList rfl
      rfl
  | .classDef name source body, scope, around, address, found, _, _, shorter, named => by
    have hasName : name ≠ "" := by simpa [Statement.name?] using named _ List.mem_cons_self
    rw [visit, if_neg hasName]
    apply walk_class nested scope found shorter name source body
    exact visitAll_walked nested body _ _ address 0 _ (found.isValid_addClass name source)
      (Scope.matches_class _ _ _ _ _ _) (shorter.cons _) fun site member =>
        named site (List.mem_cons_of_mem _ member)
  | .functionDef header body, scope, around, address, found, valid, stands, shorter, named => by
    have hasName : header.name ≠ "" := by
      simpa [Statement.name?] using named _ List.mem_cons_self
    obtain ⟨middle, entered, before⟩ := walk_function nested address header body valid stands
    have stillValid : scope.IsValid middle.symbols := before ▸ valid.after _ _
    obtain ⟨after, walked, behind⟩ :=
      visitAll_walked nested body { scope with inFunction := true }
        ((address, .functionDef header body) :: around) address 0 middle stillValid
        (stands.function address header body) (shorter.cons _)
        fun site member => named site (List.mem_cons_of_mem _ member)
    refine ⟨after, by rw [visit, if_neg hasName]; simp only [entered, walked], ?_⟩
    rw [Surroundings.owner?_cons_other _ _ rfl] at behind
    rw [behind, before]
    simp only [Statement.sites]
    let head : Site := ⟨address, .functionDef header body, around⟩
    rw [Site.symbols_cons_function nested header body shorter,
      show head :: Statement.sitesAll _ _ _ _ = [head] ++ Statement.sitesAll _ _ _ _ from rfl,
      Site.methods_append]
    exact valid.sequence _ _ _ _
  | .group body, scope, around, address, found, valid, stands, shorter, named => by
    rw [visit]
    apply walk_group nested scope found address body
    exact visitAll_walked nested body _ _ address 0 _ valid (stands.group address body)
      (shorter.cons _) fun site member => named site (List.mem_cons_of_mem _ member)

theorem visitAll_walked (nested : NestedFunctions) : (body : List Statement) → (scope : Scope) →
    (around : Surroundings) → (address : Address) → (index : Nat) → (found : ModuleSymbols) →
    scope.IsValid found.symbols → scope.Matches around →
    around.ShorterThan (address.length + 1) →
    Site.AllNamed (Statement.sitesAll around address index body) →
    scope.Walked nested around found (Statement.sitesAll around address index body)
      (visitAll nested scope found body)
  | [], scope, around, address, index, found, _, _, _, _ => by
    refine ⟨found, rfl, ?_⟩
    simp [Statement.sitesAll, Site.methods, Site.symbols, Scope.give_nil]
  | statement :: rest, scope, around, address, index, found, valid, stands, shorter, named => by
    obtain ⟨middle, first, before⟩ :=
      visit_walked nested statement scope around (address ++ [index]) found valid stands
        (by simpa using shorter) fun site member => named site (List.mem_append_left _ member)
    have stillValid : scope.IsValid middle.symbols := before ▸ valid.after _ _
    obtain ⟨after, second, behind⟩ :=
      visitAll_walked nested rest scope around address (index + 1) middle stillValid stands
        shorter fun site member => named site (List.mem_append_right _ member)
    refine ⟨after, by simp [visitAll, first, second], ?_⟩
    rw [behind, before, valid.sequence, Statement.symbols_sitesAll_cons shorter]
    simp [Statement.sitesAll, Site.methods_append]

end

mutual

/-- A walk stops at the first definition without a name. -/
theorem visit_fault (nested : NestedFunctions) (problem : MalformedOutline) :
    (statement : Statement) → (scope : Scope) → (around : Surroundings) → (address : Address) →
    (found : ModuleSymbols) → scope.IsValid found.symbols → scope.Matches around →
    around.ShorterThan address.length →
    (statement.sites around address).findSome? Site.fault? = some problem →
    visit nested scope found statement = .error problem
  | .imports names, scope, around, address, found, _, _, _, fault => by
    simp [Statement.sites, Site.fault?] at fault
  | .importFrom module, scope, around, address, found, _, _, _, fault => by
    simp [Statement.sites, Site.fault?] at fault
  | .classDef name source body, scope, around, address, found, _, _, shorter, fault => by
    rw [Statement.sites, List.findSome?_cons] at fault
    by_cases nameless : name = ""
    · simp only [Site.fault?, nameless, ↓reduceIte, Option.some.injEq] at fault
      rw [visit, if_pos nameless, fault]
    · simp only [Site.fault?, nameless, ↓reduceIte] at fault
      rw [visit, if_neg nameless]
      exact visitAll_fault nested problem body _ _ address 0 _ (found.isValid_addClass name source)
        (Scope.matches_class _ _ _ _ _ _) (shorter.cons _) fault
  | .functionDef header body, scope, around, address, found, valid, stands, shorter, fault => by
    rw [Statement.sites, List.findSome?_cons] at fault
    by_cases nameless : header.name = ""
    · simp only [Site.fault?, nameless, ↓reduceIte, Option.some.injEq] at fault
      rw [visit, if_pos nameless, fault]
    · simp only [Site.fault?, nameless, ↓reduceIte] at fault
      obtain ⟨middle, entered, before⟩ := walk_function nested address header body valid stands
      have stillValid : scope.IsValid middle.symbols := before ▸ valid.after _ _
      rw [visit, if_neg nameless]
      simp only [entered]
      exact visitAll_fault nested problem body _ _ address 0 _ stillValid
        (stands.function address header body) (shorter.cons _) fault
  | .group body, scope, around, address, found, valid, stands, shorter, fault => by
    rw [Statement.sites, List.findSome?_cons] at fault
    exact visitAll_fault nested problem body _ _ address 0 _ valid (stands.group address body)
      (shorter.cons _) fault

theorem visitAll_fault (nested : NestedFunctions) (problem : MalformedOutline) :
    (body : List Statement) → (scope : Scope) → (around : Surroundings) → (address : Address) →
    (index : Nat) → (found : ModuleSymbols) → scope.IsValid found.symbols →
    scope.Matches around → around.ShorterThan (address.length + 1) →
    (Statement.sitesAll around address index body).findSome? Site.fault? = some problem →
    visitAll nested scope found body = .error problem
  | [], scope, around, address, index, found, _, _, _, fault => by
    simp [Statement.sitesAll] at fault
  | statement :: rest, scope, around, address, index, found, valid, stands, shorter, fault => by
    have shorterHead : around.ShorterThan (address ++ [index]).length := by simpa using shorter
    rw [Statement.sitesAll, List.findSome?_append] at fault
    cases first : (statement.sites around (address ++ [index])).findSome? Site.fault? with
    | some other =>
      rw [first, Option.some_or, Option.some.injEq] at fault
      subst fault
      simp only [visitAll, visit_fault nested other statement scope around _ found valid stands
        shorterHead first]
    | none =>
      rw [first, Option.none_or] at fault
      obtain ⟨middle, walked, before⟩ := visit_walked nested statement scope around _ found valid
        stands shorterHead (Site.allNamed_iff.mpr first)
      have stillValid : scope.IsValid middle.symbols := before ▸ valid.after _ _
      simp only [visitAll, walked]
      exact visitAll_fault nested problem rest scope around address (index + 1) middle stillValid
        stands shorter fault

end

namespace Outline

variable {nested : NestedFunctions} {outline : Outline} {found : ModuleSymbols}

theorem symbols_walked (nested : NestedFunctions) (named : outline.IsNamed) :
    ∃ found, outline.symbols nested = .ok found ∧
      found.symbols = Site.symbols nested outline.sites := by
  obtain ⟨found, walked, listed⟩ := visitAll_walked nested outline {} [] [] 0 .empty
    (by intro index given; cases given) ⟨rfl, rfl⟩ (by intro outer given; cases given) named
  exact ⟨found, walked, by simpa [Scope.give, ModuleSymbols.empty, sites] using listed⟩

theorem symbols_of_fault (nested : NestedFunctions) {problem : MalformedOutline}
    (fault : outline.sites.findSome? Site.fault? = some problem) :
    outline.symbols nested = .error problem :=
  visitAll_fault nested problem outline {} [] [] 0 .empty
    (by intro index given; cases given) ⟨rfl, rfl⟩ (by intro outer given; cases given) fault

theorem isNamed_of_symbols (walked : outline.symbols nested = .ok found) : outline.IsNamed := by
  rw [IsNamed, Site.allNamed_iff, Option.eq_none_iff_forall_ne_some]
  intro problem fault
  cases (symbols_of_fault nested fault).symm.trans walked

end Outline

/-- A symbol as an extraction lists it. -/
def Symbol.IsListed (symbol : Symbol) : Prop :=
  (symbol.kind = .class ∨ symbol.kind = .function ∧ symbol.methods = []) ∧
    ∀ method ∈ symbol.methods, method.kind = .method ∧ method.methods = []

theorem Site.isListed_of_symbols {nested : NestedFunctions} {sites : List Site} {symbol : Symbol}
    (member : symbol ∈ symbols nested sites) : symbol.IsListed := by
  obtain ⟨site, _, listed⟩ := List.mem_filterMap.mp member
  unfold symbol? at listed
  split at listed
  · cases listed
    refine ⟨.inl rfl, ?_⟩
    intro method member
    obtain ⟨place, _, given⟩ := List.mem_filterMap.mp member
    unfold method? at given
    split at given
    · split at given
      · cases given
        exact ⟨rfl, rfl⟩
      · cases given
    · cases given
  · split at listed
    · cases listed
      exact ⟨.inr ⟨rfl, rfl⟩, by intro method given; cases given⟩
    · cases listed
  · cases listed

theorem Outline.isListed_of_symbols {nested : NestedFunctions} {outline : Outline}
    {found : ModuleSymbols} (walked : outline.symbols nested = .ok found) :
    ∀ symbol ∈ found.symbols, symbol.IsListed := by
  obtain ⟨other, same, listed⟩ := symbols_walked nested (isNamed_of_symbols walked)
  cases walked.symm.trans same
  intro symbol member
  exact Site.isListed_of_symbols (listed ▸ member)

/-- An outline whose definitions are named lists its classes, wherever they stand, and the functions
outside of classes in the order of the source. A function inside of a class is a method of the one
that is closest, and of no other class, whatever their names. -/
theorem Outline.symbols_of_named (nested : NestedFunctions) (outline : Outline)
    (named : outline.IsNamed) :
    ∃ found, outline.symbols nested = .ok found ∧
      found.symbols = outline.sites.filterMap (Site.symbol? nested outline.sites) ∧
      (∀ symbol ∈ found.symbols, symbol.kind = .class ∨ symbol.kind = .function) ∧
      ∀ symbol ∈ found.symbols, ∀ method ∈ symbol.methods, method.kind = .method := by
  obtain ⟨found, walked, listed⟩ := symbols_walked nested named
  have shape := isListed_of_symbols walked
  refine ⟨found, walked, listed, ?_, ?_⟩
  · intro symbol member
    exact (shape symbol member).1.imp id And.left
  · intro symbol member method given
    exact ((shape symbol member).2 method given).1

def twoClassesOfOneName : Outline :=
  [.classDef "A" "class A"
    [.functionDef { name := "f" }
      [.group [.classDef "A" "class A" [.functionDef { name := "g" } []]],
        .functionDef { name := "h" } []],
      .functionDef { name := "k" } []]]

theorem symbols_of_two_classes :
    twoClassesOfOneName.IsNamed ∧ ∃ found, twoClassesOfOneName.symbols .omit = .ok found ∧
      found.symbols.map (fun symbol => (symbol.name, symbol.methods.map Symbol.name)) =
        [("A", ["f", "k"]), ("A", ["g"])] := by
  have named : twoClassesOfOneName.IsNamed := by decide
  obtain ⟨found, walked, listed, _, _⟩ := Outline.symbols_of_named .omit _ named
  refine ⟨named, found, walked, ?_⟩
  rw [listed]
  rfl

end PythonDocs
