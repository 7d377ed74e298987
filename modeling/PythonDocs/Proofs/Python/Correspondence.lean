import Mathlib.Data.List.Pairwise
import PythonDocs.Proofs.Extraction.Enclosing
import PythonDocs.Proofs.Python.Entries
import PythonDocs.Proofs.Python.Lowering

namespace PythonDocs

open Python

namespace Python

def Tree.header (source : List Char) (tree entry : Tree) : FunctionHeader where
  name := definedName tree.children
  params := parameterNames tree.children
  returns := (tree.children.find? (isNode .resultType)).map (nodeText source)
  isAsync := tree.children.any (isToken (.keyword .async))
  source := entry.definitionSource source

/-- What a statement tells of an entry. -/
inductive Describes (source : List Char) (entry : Tree) : Statement → Prop
  | importNames (kind : entry.isNode .importNames = true) :
    Describes source entry (.imports (entry.modulePaths.map (nodeText source)))
  | importFrom (kind : entry.isNode .importFrom = true) :
    Describes source entry (.importFrom (entry.modulePaths.head?.map (nodeText source)))
  | importFuture (kind : entry.isNode .importFuture = true) :
    Describes source entry (.importFrom (some "__future__"))
  | classDef {tree : Tree} (kind : tree.isNode .classDef = true) (defines : tree.IsDefinedBy entry)
      (body : Outline) :
    Describes source entry
      (.classDef (definedName tree.children) (entry.definitionSource source) body)
  | functionDef {tree : Tree} (kind : tree.isNode .functionDef = true)
      (defines : tree.IsDefinedBy entry) (body : Outline) :
    Describes source entry (.functionDef (tree.header source entry) body)

mutual

/-- A statement stands for entries: for the first of them, and its body for those inside of that.
A group stands for nothing of its own, and is never empty. -/
inductive Gives (source : List Char) : List Tree → Statement → Prop
  | entry {entry : Tree} {inside : List Tree} {statement : Statement}
      (wide : entry.start < entry.stop) (described : Describes source entry statement)
      (encloses : ∀ inner ∈ inside, entry.Encloses inner)
      (body : GivesAll source inside statement.body) : Gives source (entry :: inside) statement
  | group {inside : List Tree} {body : Outline} (full : body ≠ [])
      (given : GivesAll source inside body) : Gives source inside (.group body)

inductive GivesAll (source : List Char) : List Tree → Outline → Prop
  | nil : GivesAll source [] []
  | cons {first rest : List Tree} {statement : Statement} {statements : Outline}
      (head : Gives source first statement) (tail : GivesAll source rest statements)
      (apart : ∀ left ∈ first, ∀ right ∈ rest, left.stop ≤ right.start) :
    GivesAll source (first ++ rest) (statement :: statements)

end

variable {source : List Char}

theorem Describes.isGroup {entry : Tree} {statement : Statement}
    (described : Describes source entry statement) : statement.isGroup = false := by
  cases described <;> rfl

namespace Describes

variable {entry tree : Tree} {body : Outline}

theorem decorated_class {name text : String}
    (described : Describes source tree (.classDef name text body))
    (plain : tree.isNode .decorated = false) (decorated : entry.isNode .decorated = true)
    (child : tree ∈ entry.children) :
    Describes source entry (.classDef name (entry.definitionSource source) body) := by
  cases described with
  | classDef kind defines =>
    obtain rfl | ⟨also, -⟩ := defines
    · exact .classDef kind (.inr ⟨decorated, child⟩) body
    · rw [plain] at also
      cases also

theorem decorated_function {header : FunctionHeader}
    (described : Describes source tree (.functionDef header body))
    (plain : tree.isNode .decorated = false) (decorated : entry.isNode .decorated = true)
    (child : tree ∈ entry.children) :
    Describes source entry
      (.functionDef { header with source := entry.definitionSource source } body) := by
  cases described with
  | functionDef kind defines =>
    obtain rfl | ⟨also, -⟩ := defines
    · exact .functionDef kind (.inr ⟨decorated, child⟩) body
    · rw [plain] at also
      cases also

end Describes

namespace GivesAll

variable {first second entries : List Tree} {before behind outline : Outline}

theorem append : {first second : List Tree} → {before behind : Outline} →
    GivesAll source first before → GivesAll source second behind →
    (∀ left ∈ first, ∀ right ∈ second, left.stop ≤ right.start) →
    GivesAll source (first ++ second) (before ++ behind)
  | _, _, _, _, .nil, right, _ => right
  | _, second, _, _, @GivesAll.cons _ first _ _ _ head tail apart, right, gap => by
    rw [List.append_assoc, List.cons_append]
    refine .cons head (tail.append right fun left member => ?_) fun left member other inside => ?_
    · exact gap left (List.mem_append_right _ member)
    · rcases List.mem_append.mp inside with inside | inside
      · exact apart left member other inside
      · exact gap left (List.mem_append_left _ member) other inside

theorem single {statement : Statement} (given : Gives source entries statement) :
    GivesAll source entries [statement] := by
  have whole := GivesAll.cons given .nil nofun
  rwa [List.append_nil] at whole

theorem of_single {statement : Statement} (given : GivesAll source entries [statement]) :
    Gives source entries statement := by
  cases given with
  | cons head tail =>
    cases tail
    rwa [List.append_nil]

theorem exists_entry {entries : List Tree} {outline : Outline}
    (given : GivesAll source entries outline) (full : outline ≠ []) :
    ∃ statement ∈ Statement.withinAll outline, statement.isGroup = false := by
  cases given with
  | nil => exact absurd rfl full
  | @cons _ _ statement _ head =>
    cases head with
    | entry _ described =>
      have self := statement.within_eq ▸ List.mem_cons_self
      exact ⟨statement, List.mem_append_left _ self, described.isGroup⟩
    | group some inside =>
      obtain ⟨inner, member, entry⟩ := inside.exists_entry some
      exact ⟨inner, List.mem_append_left _ (List.mem_cons_of_mem _ member), entry⟩

end GivesAll

/-- Two entries are nested as the sites of their statements are. -/
def AreAlike (first second : Tree × Site) : Prop :=
  (first.1.Encloses second.1 ↔ first.2.Encloses second.2) ∧
    (second.1.Encloses first.1 ↔ second.2.Encloses first.2)

/-- Entries and the sites of the statements that stand for them, in one order and nested in the
same way. -/
structure Agree (source : List Char) (entries : List Tree) (sites : List Site) : Prop where
  described : List.Forall₂ (fun entry site => Describes source entry site.statement) entries sites
  nested : (entries.zip sites).Pairwise AreAlike
  ordered : entries.Pairwise fun first second => first.start < second.start
  wide : ∀ entry ∈ entries, entry.start < entry.stop
  shorter : ∀ site ∈ sites, site.around.ShorterThan site.address.length

namespace Agree

theorem nil : Agree source [] [] :=
  ⟨.nil, .nil, .nil, List.forall_mem_nil _, List.forall_mem_nil _⟩

variable {first second entries : List Tree} {before behind sites : List Site}

theorem append (left : Agree source first before) (right : Agree source second behind)
    (apart : ∀ entry ∈ first, ∀ other ∈ second, entry.stop ≤ other.start)
    (separate : ∀ site ∈ before, ∀ other ∈ behind, ¬ site.Encloses other ∧ ¬ other.Encloses site) :
    Agree source (first ++ second) (before ++ behind) := by
  refine ⟨List.rel_append left.described right.described, ?_, ?_, ?_, ?_⟩
  · rw [List.zip_append left.described.length_eq]
    refine List.pairwise_append.mpr ⟨left.nested, right.nested, fun one member two later => ?_⟩
    obtain ⟨here, there⟩ := List.of_mem_zip member
    obtain ⟨farther, beyond⟩ := List.of_mem_zip later
    have gap := apart _ here _ farther
    have long := left.wide _ here
    have also := right.wide _ farther
    obtain ⟨outside, inside⟩ := separate _ there _ beyond
    refine ⟨iff_of_false ?_ outside, iff_of_false ?_ inside⟩
    · rintro ⟨-, ends⟩
      omega
    · rintro ⟨starts, -⟩
      omega
  · refine List.pairwise_append.mpr ⟨left.ordered, right.ordered, fun entry member other later => ?_⟩
    exact (left.wide entry member).trans_le (apart entry member other later)
  · exact List.forall_mem_append.mpr ⟨left.wide, right.wide⟩
  · exact List.forall_mem_append.mpr ⟨left.shorter, right.shorter⟩

theorem cons {entry : Tree} {site : Site} (inner : Agree source entries sites)
    (described : Describes source entry site.statement) (wide : entry.start < entry.stop)
    (shorter : site.around.ShorterThan site.address.length)
    (encloses : ∀ inner ∈ entries, entry.Encloses inner)
    (below : ∀ inner ∈ sites, site.Encloses inner ∧ ¬ inner.Encloses site) :
    Agree source (entry :: entries) (site :: sites) := by
  refine ⟨.cons described inner.described, ?_, ?_, ?_, ?_⟩
  · refine List.pairwise_cons.mpr ⟨fun pair member => ?_, inner.nested⟩
    obtain ⟨here, there⟩ := List.of_mem_zip member
    have outer := encloses _ here
    obtain ⟨around, outside⟩ := below _ there
    refine ⟨iff_of_true outer around, iff_of_false ?_ outside⟩
    rintro ⟨starts, -⟩
    exact Nat.lt_asymm starts outer.1
  · exact List.pairwise_cons.mpr ⟨fun other member => (encloses other member).1, inner.ordered⟩
  · exact List.forall_mem_cons.mpr ⟨wide, inner.wide⟩
  · exact List.forall_mem_cons.mpr ⟨shorter, inner.shorter⟩

theorem alike (agree : Agree source entries sites) :
    ∀ outer ∈ entries.zip sites, ∀ inner ∈ entries.zip sites,
      outer.1.Encloses inner.1 ↔ outer.2.Encloses inner.2 := by
  have : Std.Symm AreAlike := ⟨fun _ _ alike => ⟨alike.2, alike.1⟩⟩
  have self : ∀ pair ∈ entries.zip sites, AreAlike pair pair := by
    intro pair member
    have never : ¬ pair.1.Encloses pair.1 := fun encloses => Nat.lt_irrefl _ encloses.1
    have shorter := agree.shorter _ (List.of_mem_zip member).2
    have also := Site.not_encloses_of_shorter shorter (Nat.le_refl _)
    exact ⟨iff_of_false never also, iff_of_false never also⟩
  intro outer member inner inside
  exact (agree.nested.forall_of_forall self member inside).1

end Agree

mutual

theorem Gives.agree : {entries : List Tree} → {statement : Statement} →
    Gives source entries statement → (around : Surroundings) → (address : Address) →
    around.ShorterThan address.length →
    Agree source entries
      ((statement.sites around address).filter fun site => !site.statement.isGroup)
  | _, statement, .entry wide described encloses body, around, address, shorter => by
    have inner := body.agree ((address, statement) :: around) address 0 (shorter.cons statement)
    rw [statement.sites_eq, List.filter_cons_of_pos (by simp [described.isGroup])]
    refine inner.cons described wide shorter encloses fun site member => ?_
    have inside := (List.mem_filter.mp member).1
    exact ⟨Site.encloses_of_inner inside,
      Site.not_encloses_of_shorter shorter (Site.length_of_inner inside).le⟩
  | _, .group body, .group full given, around, address, shorter => by
    have inner := given.agree ((address, .group body) :: around) address 0 (shorter.cons _)
    rw [Statement.sites_eq, List.filter_cons_of_neg (by simp [Statement.isGroup])]
    exact inner

theorem GivesAll.agree : {entries : List Tree} → {body : Outline} →
    GivesAll source entries body → (around : Surroundings) → (address : Address) →
    (index : Nat) → around.ShorterThan (address.length + 1) →
    Agree source entries
      ((Statement.sitesAll around address index body).filter fun site => !site.statement.isGroup)
  | _, _, .nil, around, address, index, _ => by
    rw [Statement.sitesAll]
    exact .nil
  | _, statement :: statements, .cons head tail apart, around, address, index, shorter => by
    have first := head.agree around (address ++ [index]) (by simpa using shorter)
    have rest := tail.agree around address (index + 1) shorter
    rw [Statement.sitesAll, List.filter_append]
    refine first.append rest apart fun site member other later => ?_
    have here := Statement.sites_below _ _ _ site (List.mem_filter.mp member).1
    obtain ⟨place, behind, there⟩ :=
      Statement.sitesAll_below _ _ _ _ other (List.mem_filter.mp later).1
    exact ⟨here.not_encloses there (by omega) shorter, there.not_encloses here (by omega) shorter⟩

end

mutual

theorem Gives.groups : {entries : List Tree} → {statement : Statement} →
    Gives source entries statement → ∀ body, .group body ∈ statement.within →
      body ≠ [] ∧ ∃ inner ∈ Statement.withinAll body, inner.isGroup = false
  | _, statement, .entry _ described _ given, body, member => by
    rw [statement.within_eq] at member
    rcases List.mem_cons.mp member with same | member
    · have noGroup := described.isGroup
      rw [← same] at noGroup
      cases noGroup
    · exact given.groups body member
  | _, _, .group full given, body, member => by
    rcases List.mem_cons.mp member with same | member
    · cases same
      exact ⟨full, given.exists_entry full⟩
    · exact given.groups body member

theorem GivesAll.groups : {entries : List Tree} → {outline : Outline} →
    GivesAll source entries outline → ∀ body, .group body ∈ Statement.withinAll outline →
      body ≠ [] ∧ ∃ inner ∈ Statement.withinAll body, inner.isGroup = false
  | _, _, .nil, body, member => by cases member
  | _, _, .cons head tail _, body, member => by
    rcases List.mem_append.mp member with member | member
    · exact head.groups body member
    · exact tail.groups body member

end

namespace Tree

variable {kind : Kind} {start stop : Nat} {children : List Tree}

theorem gives_entry {entry : Tree} {statement : Statement} {inside : List Tree}
    (wide : entry.start < entry.stop ∧ ∀ inner ∈ inside, entry.Encloses inner)
    (described : Describes source entry statement) (body : GivesAll source inside statement.body) :
    GivesAll source (entry :: inside) [statement] :=
  .single (.entry wide.1 described wide.2 body)

theorem gives_import (made : (node kind start stop children).IsWellMade)
    (isImport : kind.isImport = true) (covers : (node kind start stop children).Covers source) :
    GivesAll source (node kind start stop children).entries
      (statementsOf source (node kind start stop children)) := by
  have wide := encloses_of_entry made (by simp [Kind.isEntry, isImport]) covers
  have declaring : (node kind start stop children).declares = true := by
    simp [declares, Tree.isImport, isImport]
  have simple : (kind.isInner || kind.isImport) = true := Bool.or_eq_true_iff.mpr (.inr isImport)
  have nothing := entriesOf_inner made.2.2.2 (isInner_of_child made simple)
  rw [entries_of_declaring declaring]
  rw [nothing] at wide ⊢
  cases kind with
  | importNames =>
    simp only [statementsOf]
    exact gives_entry wide (.importNames rfl) .nil
  | importFrom =>
    have path : (node .importFrom start stop children).modulePaths.head? = fromPath? children := by
      cases found : fromPath? children <;> simp [modulePaths, found]
    simp only [statementsOf, importedModule_eq, ← path]
    exact gives_entry wide (.importFrom rfl) .nil
  | importFuture =>
    simp only [statementsOf]
    exact gives_entry wide (.importFuture rfl) .nil
  | _ => cases isImport

theorem gives_definition (made : (node kind start stop children).IsWellMade)
    (definition : kind = .classDef ∨ kind = .functionDef)
    (covers : (node kind start stop children).Covers source)
    (below : GivesAll source (entriesOf children) (bodyOf source children)) :
    GivesAll source (node kind start stop children).entries
      (statementsOf source (node kind start stop children)) := by
  rcases definition with rfl | rfl
  · rw [entries_of_declaring rfl]
    simp only [statementsOf]
    exact gives_entry (encloses_of_entry made rfl covers) (.classDef rfl (.inl rfl) _) below
  · rw [entries_of_declaring rfl]
    simp only [statementsOf]
    exact gives_entry (encloses_of_entry made rfl covers) (.functionDef rfl (.inl rfl) _) below

theorem gives_decorated (made : (node .decorated start stop children).IsWellMade)
    (covers : (node .decorated start stop children).Covers source)
    (below : GivesAll source (entriesOf children) (statementsOfAll source children)) :
    GivesAll source (node .decorated start stop children).entries
      (statementsOf source (node .decorated start stop children)) := by
  obtain ⟨wide, encloses⟩ := encloses_of_entry made rfl covers
  obtain ⟨kind, _, _, inner, definition, single⟩ :=
    statementsOfAll_decorated source made.2.2.2 (areDecorated_of_node made)
  obtain ⟨tree, child, _, _, _, _, same, plain, entries, -⟩ :=
    entriesOf_decorated made.2.2.2 (areDecorated_of_node made)
  have undecorated : tree.isNode .decorated = false := by
    rcases plain with rfl | rfl <;> rw [same] <;> rfl
  rw [entries] at encloses
  have wide := And.intro wide fun tree member => encloses tree (List.mem_cons_of_mem _ member)
  rw [Tree.entries, entries, List.tail_cons]
  simp only [statementsOf]
  obtain given | ⟨header, -, -, given⟩ := statementsOf_definition source definition
  · rw [single, given, entries] at below
    rw [single, given]
    rcases below.of_single with ⟨-, described, -, body⟩
    exact gives_entry wide (described.decorated_class undecorated rfl child) body
  · rw [single, given, entries] at below
    rw [single, given]
    rcases below.of_single with ⟨-, described, -, body⟩
    exact gives_entry wide (described.decorated_function undecorated rfl child) body

theorem composes_gives : Composes source fun trees outline => ∀ {place final : Nat},
    Token.Tile source place (tokensOf trees) final →
      GivesAll source (entriesOf trees) outline where
  inner made inner _ _ _ := by
    rw [entriesOf_inner made inner]
    exact .nil
  append {first second _ _} made also left right place final tile := by
    rw [tokensOf_append] at tile
    obtain ⟨middle, before, behind⟩ := Token.tile_append.mp tile
    rw [entriesOf_append]
    refine (left before).append (right behind) fun entry member other later => ?_
    have ends := (stands_of_subtree made before (mem_entriesOf first entry member).1).2.1
    have starts := (stands_of_subtree also behind (mem_entriesOf second other later).1).1
    exact ends.trans starts
  group {_ _ _ _ outline} plain other below place final tile := by
    rw [tokensOf_single] at tile
    rw [entriesOf_single, entries_of_plain (by simp [Kind.isEntry, plain, other])]
    have given := below tile
    cases outline with
    | nil => exact given
    | cons => exact .single (.group (List.cons_ne_nil _ _) given)
  block below place final tile := by
    rw [tokensOf_single] at tile
    rw [entriesOf_single, entries_of_plain rfl]
    exact below tile
  importing made isImport place final tile := by
    rw [entriesOf_single]
    exact gives_import made isImport (covers_of_single made tile)
  definition made definition below place final tile := by
    have covers := covers_of_single made tile
    rw [entriesOf_single]
    exact gives_definition made definition covers (below covers)
  decorated made below place final tile := by
    have covers := covers_of_single made tile
    rw [entriesOf_single]
    exact gives_decorated made covers (below covers)

end Tree

theorem gives_of_read {source : String} {outline : Outline}
    (read : Outline.read source = .ok outline) :
    ∃ trees, parse source.toList = .ok trees ∧ Tree.AreWellMade trees ∧
      GivesAll source.toList (Tree.entriesOf trees) outline ∧
      Agree source.toList (Tree.entriesOf trees) outline.entries := by
  obtain ⟨trees, parsed, rfl⟩ := trees_of_read read
  obtain ⟨-, made, final, tile⟩ := trees_of_parse parsed
  have given := Tree.composes_gives.all trees made tile
  exact ⟨trees, parsed, made, given, given.agree [] [] 0 nofun⟩

end Python

/-- Every import, class and function of a source has one statement of its own in the outline. They
stand in the order of the source, one inside of the other where the source has them so, and a group
is only there for those inside of it. -/
theorem Outline.entries_of_read {source : String} {outline : Outline}
    (read : Outline.read source = .ok outline) :
    ∃ trees, parse source.toList = .ok trees ∧
      List.Forall₂ Tree.IsDefinedBy ((Tree.subtreesOf trees).filter Tree.declares)
        (Tree.entriesOf trees) ∧
      (Tree.entriesOf trees).Pairwise (fun first second => first.start < second.start) ∧
      List.Forall₂ (fun entry site => Describes source.toList entry site.statement)
        (Tree.entriesOf trees) outline.entries ∧
      (∀ outer ∈ (Tree.entriesOf trees).zip outline.entries,
        ∀ inner ∈ (Tree.entriesOf trees).zip outline.entries,
          outer.1.Encloses inner.1 ↔ outer.2.Encloses inner.2) ∧
      ∀ body, .group body ∈ Statement.withinAll outline →
        body ≠ [] ∧ ∃ inner ∈ Statement.withinAll body, inner.isGroup = false := by
  obtain ⟨trees, parsed, made, given, agree⟩ := gives_of_read read
  exact ⟨trees, parsed, Tree.entriesOf_of_declares trees made, agree.ordered, agree.described,
    agree.alike, given.groups⟩

def guardedImports : String :=
  "if x:\n    @d\n    async def f():\n        from . import a\nelse:\n    class C: import b\n"

theorem length_guardedImports : ∃ outline, Outline.read guardedImports = .ok outline ∧
    outline.entries.length = 4 := exists_of_toOption (by decide +kernel)

theorem Outline.entries_of_guardedImports :
    ∃ outline trees, Outline.read guardedImports = .ok outline ∧
      parse guardedImports.toList = .ok trees ∧ (Tree.entriesOf trees).length = 4 ∧
      (Tree.entriesOf trees).Pairwise (fun first second => first.start < second.start) ∧
      List.Forall₂ (fun entry site => Describes guardedImports.toList entry site.statement)
        (Tree.entriesOf trees) outline.entries := by
  obtain ⟨outline, read, length⟩ := length_guardedImports
  obtain ⟨trees, parsed, -, ordered, described, -⟩ := Outline.entries_of_read read
  exact ⟨outline, trees, read, parsed, described.length_eq.trans length, ordered, described⟩

end PythonDocs
