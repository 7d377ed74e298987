import Mathlib.Data.List.Basic
import PythonDocs.Extraction

namespace PythonDocs

namespace Statement

def isClass : Statement → Bool
  | classDef .. => true
  | _ => false

def isFunction : Statement → Bool
  | functionDef .. => true
  | _ => false

def name? : Statement → Option String
  | classDef name _ _ => some name
  | functionDef header _ => some header.name
  | _ => none

def body : Statement → List Statement
  | classDef _ _ body | functionDef _ body | group body => body
  | _ => []

end Statement

/-- The indices that lead from the top to a statement. -/
abbrev Address := List Nat

/-- The statements around a place, the closest first. -/
abbrev Surroundings := List (Address × Statement)

namespace Surroundings

def owner? (around : Surroundings) : Option Address :=
  (around.find? fun outer => outer.2.isClass).map Prod.fst

def hasFunction (around : Surroundings) : Bool :=
  (around.takeWhile fun outer => !outer.2.isClass).any fun outer => outer.2.isFunction

theorem owner?_cons_class (outer : Address × Statement) (around : Surroundings)
    (isClass : outer.2.isClass = true) : owner? (outer :: around) = some outer.1 := by
  simp [owner?, isClass]

theorem owner?_cons_other (outer : Address × Statement) (around : Surroundings)
    (other : outer.2.isClass = false) : owner? (outer :: around) = owner? around := by
  simp [owner?, other]

theorem hasFunction_cons_class (outer : Address × Statement) (around : Surroundings)
    (isClass : outer.2.isClass = true) : hasFunction (outer :: around) = false := by
  simp [hasFunction, isClass]

theorem hasFunction_cons_other (outer : Address × Statement) (around : Surroundings)
    (other : outer.2.isClass = false) :
    hasFunction (outer :: around) = (outer.2.isFunction || hasFunction around) := by
  simp [hasFunction, other]

theorem mem_of_owner? {around : Surroundings} {address : Address}
    (owned : owner? around = some address) : ∃ outer ∈ around, outer.1 = address := by
  obtain ⟨outer, found, rfl⟩ := Option.map_eq_some_iff.mp owned
  exact ⟨outer, List.mem_of_find?_eq_some found, rfl⟩

theorem owner?_append (inner around : Surroundings) :
    owner? (inner ++ around) = owner? around ∨
      ∃ outer ∈ inner, owner? (inner ++ around) = some outer.1 := by
  simp only [owner?, List.find?_append]
  cases first : inner.find? fun outer => outer.2.isClass with
  | some outer => exact .inr ⟨outer, List.mem_of_find?_eq_some first, by simp⟩
  | none => exact .inl (by simp)

end Surroundings

structure Site where
  address : Address
  statement : Statement
  around : Surroundings

mutual

/-- The sites of a statement at an address and of those inside, in the order of the source. -/
def Statement.sites (around : Surroundings) (address : Address) : Statement → List Site
  | .imports names => [⟨address, .imports names, around⟩]
  | .importFrom module => [⟨address, .importFrom module, around⟩]
  | .classDef name source body =>
    let statement : Statement := .classDef name source body
    ⟨address, statement, around⟩ :: sitesAll ((address, statement) :: around) address 0 body
  | .functionDef header body =>
    let statement : Statement := .functionDef header body
    ⟨address, statement, around⟩ :: sitesAll ((address, statement) :: around) address 0 body
  | .group body =>
    let statement : Statement := .group body
    ⟨address, statement, around⟩ :: sitesAll ((address, statement) :: around) address 0 body

def Statement.sitesAll (around : Surroundings) (address : Address) (index : Nat) :
    List Statement → List Site
  | [] => []
  | statement :: rest =>
    statement.sites around (address ++ [index]) ++ sitesAll around address (index + 1) rest

end

theorem Statement.sites_eq (statement : Statement) (around : Surroundings) (address : Address) :
    statement.sites around address =
      ⟨address, statement, around⟩ ::
        sitesAll ((address, statement) :: around) address 0 statement.body := by
  cases statement <;> simp [sites, sitesAll, body]

def Outline.sites (outline : Outline) : List Site := Statement.sitesAll [] [] 0 outline

/-- A site at or below an address, where everything between it and some surroundings is also at or
below that address. -/
def Site.IsBelow (site : Site) (address : Address) (around : Surroundings) : Prop :=
  address <+: site.address ∧
    ∃ inner, site.around = inner ++ around ∧ ∀ outer ∈ inner, address <+: outer.1

theorem Site.IsBelow.widen {site : Site} {address : Address} {statement : Statement}
    {around : Surroundings} {index : Nat}
    (below : site.IsBelow (address ++ [index]) ((address, statement) :: around)) :
    site.IsBelow address around := by
  obtain ⟨start, inner, same, inside⟩ := below
  have wider : address <+: address ++ [index] := List.prefix_append _ _
  refine ⟨wider.trans start, inner ++ [(address, statement)], by simp [same], ?_⟩
  intro outer member
  rcases List.mem_append.mp member with member | member
  · exact wider.trans (inside outer member)
  · obtain rfl := List.mem_singleton.mp member
    exact List.prefix_refl _

mutual

theorem Statement.sites_below (around : Surroundings) (address : Address) :
    (statement : Statement) → ∀ site ∈ statement.sites around address, site.IsBelow address around
  | .imports names, site, member => by
    rw [List.mem_singleton.mp member]
    exact ⟨List.prefix_refl _, [], rfl, by simp⟩
  | .importFrom module, site, member => by
    rw [List.mem_singleton.mp member]
    exact ⟨List.prefix_refl _, [], rfl, by simp⟩
  | .classDef name source body, site, member => by
    rcases List.mem_cons.mp member with rfl | member
    · exact ⟨List.prefix_refl _, [], rfl, by simp⟩
    · obtain ⟨index, _, below⟩ := sitesAll_below _ address 0 body site member
      exact below.widen
  | .functionDef header body, site, member => by
    rcases List.mem_cons.mp member with rfl | member
    · exact ⟨List.prefix_refl _, [], rfl, by simp⟩
    · obtain ⟨index, _, below⟩ := sitesAll_below _ address 0 body site member
      exact below.widen
  | .group body, site, member => by
    rcases List.mem_cons.mp member with rfl | member
    · exact ⟨List.prefix_refl _, [], rfl, by simp⟩
    · obtain ⟨index, _, below⟩ := sitesAll_below _ address 0 body site member
      exact below.widen

theorem Statement.sitesAll_below (around : Surroundings) (address : Address) (index : Nat) :
    (body : List Statement) → ∀ site ∈ sitesAll around address index body,
      ∃ other, index ≤ other ∧ site.IsBelow (address ++ [other]) around
  | [], site, member => by simp [sitesAll] at member
  | statement :: rest, site, member => by
    rcases List.mem_append.mp member with member | member
    · exact ⟨index, Nat.le_refl _, sites_below around _ statement site member⟩
    · obtain ⟨other, later, below⟩ := sitesAll_below around address (index + 1) rest site member
      exact ⟨other, by omega, below⟩

end

theorem Address.lt_of_below {address site : Address} {index : Nat}
    (below : address ++ [index] <+: site) : address < site := by
  obtain ⟨rest, rfl⟩ := below
  have later : address ++ [] < address ++ index :: rest :=
    List.append_left_lt (List.nil_lt_cons index rest)
  simpa using later

theorem Address.lt_of_branches {address first second : Address} {left right : Nat}
    (before : left < right) (firstBelow : address ++ [left] <+: first)
    (secondBelow : address ++ [right] <+: second) : first < second := by
  obtain ⟨firstRest, rfl⟩ := firstBelow
  obtain ⟨secondRest, rfl⟩ := secondBelow
  have later : address ++ left :: firstRest < address ++ right :: secondRest :=
    List.append_left_lt (List.cons_lt_cons_iff.mpr (.inl before))
  simpa using later

mutual

theorem Statement.sites_sorted (around : Surroundings) (address : Address) :
    (statement : Statement) →
      (statement.sites around address).Pairwise fun first second => first.address < second.address
  | .imports names => List.pairwise_singleton _ _
  | .importFrom module => List.pairwise_singleton _ _
  | .classDef name source body => by
    refine List.pairwise_cons.mpr ⟨?_, sitesAll_sorted _ address 0 body⟩
    intro site member
    obtain ⟨index, _, below⟩ := sitesAll_below _ address 0 body site member
    exact Address.lt_of_below below.1
  | .functionDef header body => by
    refine List.pairwise_cons.mpr ⟨?_, sitesAll_sorted _ address 0 body⟩
    intro site member
    obtain ⟨index, _, below⟩ := sitesAll_below _ address 0 body site member
    exact Address.lt_of_below below.1
  | .group body => by
    refine List.pairwise_cons.mpr ⟨?_, sitesAll_sorted _ address 0 body⟩
    intro site member
    obtain ⟨index, _, below⟩ := sitesAll_below _ address 0 body site member
    exact Address.lt_of_below below.1

theorem Statement.sitesAll_sorted (around : Surroundings) (address : Address) (index : Nat) :
    (body : List Statement) →
      (sitesAll around address index body).Pairwise fun first second =>
        first.address < second.address
  | [] => List.Pairwise.nil
  | statement :: rest => by
    refine List.pairwise_append.mpr
      ⟨sites_sorted around _ statement, sitesAll_sorted around address (index + 1) rest, ?_⟩
    intro first member second later
    obtain ⟨other, behind, below⟩ := sitesAll_below around address (index + 1) rest second later
    exact Address.lt_of_branches behind (sites_below around _ statement first member).1 below.1

end

theorem Outline.sites_sorted (outline : Outline) :
    outline.sites.Pairwise fun first second => first.address < second.address :=
  Statement.sitesAll_sorted [] [] 0 outline

namespace Site

def owner? (site : Site) : Option Address := site.around.owner?

/-- Whether the function at a site is listed: where functions inside of functions are left out, no
function is between it and its class or the top. -/
def isRecorded (nested : NestedFunctions) (site : Site) : Bool :=
  nested = .flatten || !site.around.hasFunction

def method? (nested : NestedFunctions) (owner : Option Address) (site : Site) : Option Symbol :=
  match site.statement with
  | .functionDef header _ =>
    if site.isRecorded nested ∧ site.owner? = owner then some (.ofFunction .method header) else none
  | _ => none

def methods (nested : NestedFunctions) (sites : List Site) (owner : Option Address) :
    List Symbol :=
  sites.filterMap (method? nested owner)

/-- The symbol at a site: a class, or a function without a class around it. -/
def symbol? (nested : NestedFunctions) (sites : List Site) (site : Site) : Option Symbol :=
  match site.statement with
  | .classDef name source _ =>
    some { Symbol.ofClass name source with methods := methods nested sites (some site.address) }
  | .functionDef header _ =>
    if site.isRecorded nested ∧ site.owner? = none then some (.ofFunction .function header)
    else none
  | _ => none

def symbols (nested : NestedFunctions) (sites : List Site) : List Symbol :=
  sites.filterMap (symbol? nested sites)

end Site

def Site.AllNamed (sites : List Site) : Prop := ∀ site ∈ sites, site.statement.name? ≠ some ""

def Outline.IsNamed (outline : Outline) : Prop := Site.AllNamed outline.sites

instance (outline : Outline) : Decidable outline.IsNamed :=
  inferInstanceAs (Decidable (∀ site ∈ outline.sites, site.statement.name? ≠ some ""))

def Site.fault? (site : Site) : Option MalformedOutline :=
  match site.statement with
  | .classDef name _ _ => if name = "" then some .unnamedClass else none
  | .functionDef header _ => if header.name = "" then some .unnamedFunction else none
  | _ => none

theorem Site.fault?_eq_none_iff {site : Site} :
    site.fault? = none ↔ site.statement.name? ≠ some "" := by
  unfold fault?
  cases site.statement <;> simp [Statement.name?]

theorem Site.allNamed_iff {sites : List Site} :
    AllNamed sites ↔ sites.findSome? fault? = none := by
  rw [List.findSome?_eq_none_iff]
  exact forall₂_congr fun site _ => fault?_eq_none_iff.symm

end PythonDocs
