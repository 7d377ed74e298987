import PythonDocs.Program
import PythonDocs.Proofs.Json.RoundTrip
import PythonDocs.Proofs.Python.Lowering
import PythonDocs.Proofs.Run.Steps

namespace PythonDocs

open Json (areTextual haveTextual)

variable {σ : Type}

theorem Dependencies.names_foldl (dependencies : Dependencies) {names : List String}
    (distinct : (dependencies.names ++ names).Nodup) :
    (names.foldl insert dependencies).names = dependencies.names ++ names := by
  induction names generalizing dependencies with
  | nil => exact (List.append_nil _).symm
  | cons name rest ih =>
    have new : name ∉ dependencies.names := by
      rw [List.nodup_append] at distinct
      exact fun member => distinct.2.2 name member name List.mem_cons_self rfl
    have added : (dependencies.insert name).names = dependencies.names ++ [name] := by
      rw [names_insert, if_neg new]
    rw [List.append_cons, ← added] at distinct
    rw [List.foldl_cons, ih _ distinct, added, List.append_assoc, List.singleton_append]

theorem Dependencies.eq_of_names {first second : Dependencies}
    (same : first.names = second.names) : first = second := by
  cases first
  cases second
  cases same
  rfl

theorem Dependencies.ofList_names (dependencies : Dependencies) :
    ofList dependencies.names = dependencies :=
  eq_of_names (names_foldl empty dependencies.distinct)

namespace Json

theorem areTextual_texts (texts : List String) : areTextual (texts.map .string) = true := by
  induction texts with
  | nil => rfl
  | cons text rest ih => exact ih

end Json

namespace Symbol

theorem mapM_readText (texts : List String) : (texts.map .string).mapM readText = .ok texts := by
  induction texts with
  | nil => rfl
  | cons text rest ih =>
    rw [List.map_cons, List.mapM_cons, ih]
    rfl

theorem readTexts_ofTexts (texts : List String) : readTexts (.ofTexts texts) = .ok texts :=
  mapM_readText texts

theorem readReturns_ofText? (returns : Option String) :
    readReturns (.ofText? returns) = .ok returns := by
  cases returns <;> rfl

theorem readKind_name (kind : SymbolKind) : readKind (.string kind.name) = .ok kind := by
  cases kind <;> rfl

mutual

theorem isTextual_toJson : (symbol : Symbol) → symbol.toJson.isTextual = true
  | ⟨kind, name, args, returns, isAsync, source, methods⟩ => by
    have texts := Json.areTextual_texts args
    have inner := areTextual_toJsons methods
    cases isAsync <;> cases returns <;>
      simp [toJson, Json.isTextual, Json.haveTextual, Json.ofTexts, Json.ofText?, texts, inner]

theorem areTextual_toJsons : (symbols : List Symbol) → areTextual (toJsons symbols) = true
  | [] => rfl
  | symbol :: rest => by
    simp [toJsons, areTextual, isTextual_toJson symbol, areTextual_toJsons rest]

end

mutual

theorem ofJson_toJson : (symbol : Symbol) → ofJson symbol.toJson = .ok symbol
  | ⟨kind, name, args, returns, isAsync, source, methods⟩ => by
    have inner := ofJsons_toJsons methods
    cases isAsync <;>
      simp [toJson, ofJson, ofEntries, readKind_name, readText, readTexts_ofTexts,
        readReturns_ofText?, readFlag, readSymbols, inner, unread, Fields.symbol, required, bind,
        Except.bind, pure, Except.pure]

theorem ofJsons_toJsons : (symbols : List Symbol) → ofJsons (toJsons symbols) = .ok symbols
  | [] => rfl
  | symbol :: rest => by
    simp [toJsons, ofJsons, ofJson_toJson symbol, ofJsons_toJsons rest, bind, Except.bind, pure,
      Except.pure]

end

theorem ofText?_of_read {symbol : Symbol} (shallow : symbol.depth ≤ maxDepth) {text : String}
    (read : Json.read? text = some symbol.toJson) : ofText? text = some symbol := by
  simp [ofText?, read, ofJson_toJson, Except.toOption, shallow]

theorem depthAll_le {symbols : List Symbol} {bound : Nat}
    (each : ∀ symbol ∈ symbols, symbol.depth ≤ bound) : depthAll symbols ≤ bound := by
  induction symbols with
  | nil => exact Nat.zero_le _
  | cons symbol rest ih =>
    rw [List.forall_mem_cons] at each
    exact Nat.max_le.mpr ⟨each.1, ih each.2⟩

theorem depth_eq (symbol : Symbol) : symbol.depth = 2 + depthAll symbol.methods := by
  cases symbol
  rw [depth]

theorem AreFlat.depth_le {symbols : List Symbol} (flat : AreFlat symbols) :
    ∀ symbol ∈ symbols, symbol.depth ≤ 4 ∧ ∀ method ∈ symbol.methods, method.depth = 2 := by
  intro symbol member
  have leaves : ∀ method ∈ symbol.methods, method.depth = 2 := by
    intro method inside
    rw [depth_eq, flat symbol member method inside]
    rfl
  have below := depthAll_le fun method inside => Nat.le_of_eq (leaves method inside)
  refine ⟨?_, leaves⟩
  rw [depth_eq]
  omega

end Symbol

namespace ModuleSymbols

theorem isTextual_toJson (found : ModuleSymbols) : found.toJson.isTextual = true := by
  simp [toJson, Json.isTextual, Json.haveTextual, Symbol.areTextual_toJsons, Dependencies.toJson,
    Json.ofTexts, Json.areTextual_texts]

theorem ofJson_toJson (found : ModuleSymbols) : ofJson found.toJson = .ok found := by
  have dependencies : Dependencies.ofJson found.dependencies.toJson = .ok found.dependencies := by
    rw [Dependencies.toJson, Json.ofTexts, Dependencies.ofJson, Symbol.mapM_readText, Except.map,
      Dependencies.ofList_names]
  simp [toJson, ofJson, ofEntries, Symbol.readSymbols, Symbol.ofJsons_toJsons, dependencies,
    Symbol.unread, Symbol.required, bind, Except.bind, pure, Except.pure]

theorem ofText?_of_read {found : ModuleSymbols} (flat : Symbol.AreFlat found.symbols)
    {text : String} (read : Json.read? text = some found.toJson) : ofText? text = some found := by
  have shallow := Symbol.depthAll_le fun symbol member => (flat.depth_le symbol member).1
  have fits : 2 + Symbol.depthAll found.symbols ≤ Symbol.maxDepth :=
    Nat.le_trans (Nat.add_le_add_left shallow 2) (by decide)
  simp [ofText?, read, ofJson_toJson, Except.toOption, fits]

end ModuleSymbols

namespace Symbol.AreFlat

theorem ofText?_of_read {symbols : List Symbol} (flat : AreFlat symbols) {symbol record : Symbol}
    (member : symbol ∈ symbols) (part : record ∈ symbol :: symbol.methods) {text : String}
    (read : Json.read? text = some record.toJson) : ofText? text = some record := by
  have low := flat.depth_le symbol member
  have shallow : record.depth ≤ 4 := by
    cases part with
    | head => exact low.1
    | tail _ inside => exact Nat.le_trans (Nat.le_of_eq (low.2 record inside)) (by decide)
  exact Symbol.ofText?_of_read (Nat.le_trans shallow (by decide)) read

end Symbol.AreFlat

theorem FileTree.found_of_symbolsText {tree : FileTree} {path : FilePath}
    {config : Option FilePath} {text : String} (told : tree.symbolsText path config = .ok text) :
    ∃ settings found, tree.chosenSettings config = .ok settings ∧
      tree.symbols settings.analysis.nested path = .ok found ∧
      text = found.toJson.pretty ++ "\n" := by
  unfold symbolsText at told
  cases chosen : tree.chosenSettings config with
  | error failure => simp [chosen, bind, Except.bind] at told
  | ok settings =>
    simp only [chosen, bind, Except.bind] at told
    split at told
    · cases read : tree.symbols settings.analysis.nested path with
      | error failure => simp [read] at told
      | ok found =>
        rw [read] at told
        exact ⟨settings, found, rfl, read, (Except.ok.inj told).symm⟩
    · cases told

/-- The symbols of a module and each of its records are read from what is printed for them, set in
lines or not, and the output of the command is read as what is found in the file. -/
theorem symbols_of_printed :
    (∀ found : ModuleSymbols, Symbol.AreFlat found.symbols →
      ModuleSymbols.ofText? (found.toJson.pretty ++ "\n") = some found ∧
      ModuleSymbols.ofText? found.toJson.pretty = some found ∧
      ModuleSymbols.ofText? found.toJson.compact = some found ∧
      ∀ symbol ∈ found.symbols, ∀ record ∈ symbol :: symbol.methods,
        Symbol.ofText? record.toJson.pretty = some record ∧
        Symbol.ofText? record.toJson.compact = some record) ∧
    ∀ path config environment (network : Network σ) tree state,
      ((Command.symbols path config).run environment network tree state).result = .ok () →
      ∃ settings found, tree.chosenSettings config = .ok settings ∧
        tree.symbols settings.analysis.nested path = .ok found ∧
        ModuleSymbols.ofText?
          ((Command.symbols path config).run environment network tree state).output =
            some found := by
  refine ⟨?_, ?_⟩
  · intro found flat
    have pretty := Json.read?_pretty found.isTextual_toJson
    refine ⟨ModuleSymbols.ofText?_of_read flat pretty.2,
      ModuleSymbols.ofText?_of_read flat pretty.1,
      ModuleSymbols.ofText?_of_read flat (Json.read?_compact found.isTextual_toJson), ?_⟩
    intro symbol member record part
    exact ⟨flat.ofText?_of_read member part (Json.read?_pretty record.isTextual_toJson).1,
      flat.ofText?_of_read member part (Json.read?_compact record.isTextual_toJson)⟩
  · intro path config environment network tree state ended
    cases told : tree.symbolsText path config with
    | error failure => simp [Command.run, Command.runWith, told] at ended
    | ok text =>
      obtain ⟨settings, found, chosen, read, rfl⟩ := FileTree.found_of_symbolsText told
      have printed : ((Command.symbols path config).run environment network tree state).output =
          found.toJson.pretty ++ "\n" := by
        simp [Command.run, Command.runWith, told]
      refine ⟨settings, found, chosen, read, ?_⟩
      rw [printed]
      exact ModuleSymbols.ofText?_of_read (FileTree.flat_of_symbols read)
        (Json.read?_pretty found.isTextual_toJson).2

/-- A class with quotes, marks, a control character and an asynchronous method. -/
def quotedSymbols : ModuleSymbols where
  symbols := [
    { kind := .class, name := "Ω", args := [], returns := none, isAsync := false,
      source := "class Ω:\n\t\"\\\x01\x7f\"\n", methods := [
        { kind := .method, name := "f", args := ["self", "*rest"], returns := some "'\"é\"'",
          isAsync := true, source := "async def f(self, *rest) -> '\"é\"': ...\n",
          methods := [] }] }]
  dependencies := .ofList ["zlib", "abc"]

theorem quotedSymbols_of_printed :
    ModuleSymbols.ofText? (quotedSymbols.toJson.pretty ++ "\n") = some quotedSymbols ∧
    ModuleSymbols.ofText? quotedSymbols.toJson.compact = some quotedSymbols ∧
    ∃ settings found, collidingTree.chosenSettings none = .ok settings ∧
      collidingTree.symbols settings.analysis.nested "p/a/__init__.py" = .ok found ∧
      ModuleSymbols.ofText? ((Command.symbols "p/a/__init__.py" none).run [] .closed
        collidingTree ()).output = some found := by
  have flat : Symbol.AreFlat quotedSymbols.symbols := by
    simp [Symbol.AreFlat, quotedSymbols]
  have evaluated : ((Command.symbols "p/a/__init__.py" none).run [] .closed collidingTree
      ()).result.toOption.map id = some () := by
    decide +kernel
  obtain ⟨_, ended, -⟩ := Python.exists_of_toOption evaluated
  have printed := (@symbols_of_printed Unit).1 quotedSymbols flat
  exact ⟨printed.1, printed.2.2.1, symbols_of_printed.2 _ none [] .closed _ () ended⟩

end PythonDocs
