import PythonDocs.Proofs.Extraction.Sites

namespace PythonDocs

namespace Site

theorem methods_append (nested : NestedFunctions) (first second : List Site)
    (owner : Option Address) :
    methods nested (first ++ second) owner =
      methods nested first owner ++ methods nested second owner :=
  List.filterMap_append

theorem methods_eq_nil {nested : NestedFunctions} {sites : List Site} {owner : Option Address}
    (foreign : ∀ site ∈ sites, site.owner? ≠ owner) : methods nested sites owner = [] := by
  refine List.filterMap_eq_nil_iff.mpr ?_
  intro site member
  unfold method?
  split
  · simp [foreign site member]
  · rfl

theorem symbol?_congr {nested : NestedFunctions} {sites others : List Site} {site : Site}
    (same : methods nested sites (some site.address) = methods nested others (some site.address)) :
    symbol? nested sites site = symbol? nested others site := by
  unfold symbol?
  split <;> simp [same]

theorem filterMap_symbol?_congr {nested : NestedFunctions} {sites others part : List Site}
    (same : ∀ site ∈ part,
      methods nested sites (some site.address) = methods nested others (some site.address)) :
    part.filterMap (symbol? nested sites) = part.filterMap (symbol? nested others) :=
  List.filterMap_congr fun site member => symbol?_congr (same site member)

theorem symbols_append {nested : NestedFunctions} {first second : List Site}
    (left : ∀ site ∈ first, ∀ other ∈ second, other.owner? ≠ some site.address)
    (right : ∀ site ∈ second, ∀ other ∈ first, other.owner? ≠ some site.address) :
    symbols nested (first ++ second) = symbols nested first ++ symbols nested second := by
  have before : first.filterMap (symbol? nested (first ++ second)) = symbols nested first := by
    apply filterMap_symbol?_congr
    intro site member
    rw [methods_append, methods_eq_nil (left site member), List.append_nil]
  have behind : second.filterMap (symbol? nested (first ++ second)) = symbols nested second := by
    apply filterMap_symbol?_congr
    intro site member
    rw [methods_append, methods_eq_nil (right site member), List.nil_append]
  rw [symbols, List.filterMap_append, before, behind]

theorem IsBelow.owner {site : Site} {address : Address} {around : Surroundings}
    (below : site.IsBelow address around) :
    site.owner? = around.owner? ∨ ∃ owner, site.owner? = some owner ∧ address <+: owner := by
  obtain ⟨_, inner, same, inside⟩ := below
  rw [owner?, same]
  rcases Surroundings.owner?_append inner around with outside | ⟨outer, member, owned⟩
  · exact .inl outside
  · exact .inr ⟨outer.1, owned, inside outer member⟩

end Site

def Surroundings.ShorterThan (around : Surroundings) (length : Nat) : Prop :=
  ∀ outer ∈ around, outer.1.length < length

theorem Surroundings.ShorterThan.owner {around : Surroundings} {length : Nat} {owner : Address}
    (shorter : around.ShorterThan length) (owned : around.owner? = some owner) :
    owner.length < length := by
  obtain ⟨outer, member, rfl⟩ := mem_of_owner? owned
  exact shorter outer member

theorem Surroundings.ShorterThan.cons {around : Surroundings} {address : Address}
    (shorter : around.ShorterThan address.length) (statement : Statement) :
    ShorterThan ((address, statement) :: around) (address.length + 1) := by
  intro outer member
  rcases List.mem_cons.mp member with rfl | member
  · exact Nat.lt_succ_self _
  · exact Nat.lt_succ_of_lt (shorter outer member)

theorem address_branches {address site : Address} {first second : Nat}
    (left : address ++ [first] <+: site) (right : address ++ [second] <+: site) :
    first = second := by
  have nested := List.prefix_of_prefix_length_le left right (by simp)
  have same := nested.eq_of_length (by simp)
  simpa using same

theorem Site.IsBelow.not_around {site other : Site} {address : Address} {around : Surroundings}
    {first second : Nat} (siteBelow : site.IsBelow (address ++ [first]) around)
    (otherBelow : other.IsBelow (address ++ [second]) around) (apart : first ≠ second)
    (shorter : around.ShorterThan (address.length + 1)) :
    ∀ outer ∈ other.around, outer.1 ≠ site.address := by
  obtain ⟨-, inner, same, inside⟩ := otherBelow
  intro outer member here
  rw [same] at member
  rcases List.mem_append.mp member with member | member
  · exact apart (address_branches siteBelow.1 (here ▸ inside outer member))
  · have bound := siteBelow.1.length_le
    have short := shorter outer member
    rw [List.length_append, List.length_singleton] at bound
    rw [here] at short
    omega

theorem Site.IsBelow.not_owned {site other : Site} {address : Address} {around : Surroundings}
    {first second : Nat} (siteBelow : site.IsBelow (address ++ [first]) around)
    (otherBelow : other.IsBelow (address ++ [second]) around) (apart : first ≠ second)
    (shorter : around.ShorterThan (address.length + 1)) : other.owner? ≠ some site.address := by
  intro owned
  obtain ⟨outer, member, same⟩ := Surroundings.mem_of_owner? owned
  exact siteBelow.not_around otherBelow apart shorter outer member same

namespace Statement

theorem symbols_sitesAll_cons {nested : NestedFunctions} {around : Surroundings}
    {address : Address} (shorter : around.ShorterThan (address.length + 1)) (index : Nat)
    (statement : Statement) (rest : List Statement) :
    Site.symbols nested (sitesAll around address index (statement :: rest)) =
      Site.symbols nested (statement.sites around (address ++ [index])) ++
        Site.symbols nested (sitesAll around address (index + 1) rest) := by
  apply Site.symbols_append
  · intro site member other later
    obtain ⟨place, behind, below⟩ := sitesAll_below _ _ _ _ other later
    exact (sites_below _ _ _ site member).not_owned below (by omega) shorter
  · intro site later other member
    obtain ⟨place, behind, below⟩ := sitesAll_below _ _ _ _ site later
    exact below.not_owned (sites_below _ _ _ other member) (by omega) shorter

end Statement

namespace Site

theorem owner_of_inner {around : Surroundings} {address : Address} {statement : Statement}
    {index : Nat} {body : List Statement} {site : Site}
    (member : site ∈ Statement.sitesAll ((address, statement) :: around) address index body) :
    site.owner? = Surroundings.owner? ((address, statement) :: around) ∨
      ∃ owner, site.owner? = some owner ∧ address.length < owner.length := by
  obtain ⟨place, _, below⟩ := Statement.sitesAll_below _ _ _ _ site member
  rcases below.owner with outside | ⟨owner, same, inside⟩
  · exact .inl outside
  · have bound := inside.length_le
    rw [List.length_append, List.length_singleton] at bound
    exact .inr ⟨owner, same, by omega⟩

theorem length_of_inner {around : Surroundings} {address : Address} {index : Nat}
    {body : List Statement} {site : Site}
    (member : site ∈ Statement.sitesAll around address index body) :
    address.length < site.address.length := by
  obtain ⟨place, _, below⟩ := Statement.sitesAll_below _ _ _ _ site member
  have bound := below.1.length_le
  rw [List.length_append, List.length_singleton] at bound
  omega

theorem methods_cons_other (nested : NestedFunctions) (inner : List Site) {head : Site}
    (other : head.statement.isFunction = false) (owner : Option Address) :
    methods nested (head :: inner) owner = methods nested inner owner := by
  have nothing : method? nested owner head = none := by
    unfold method?
    split
    · rename_i same
      simp [same, Statement.isFunction] at other
    · rfl
  rw [methods, List.filterMap_cons, nothing, methods]

theorem symbols_cons_other (nested : NestedFunctions) (inner : List Site) {head : Site}
    (other : head.statement.isFunction = false) :
    symbols nested (head :: inner) =
      (symbol? nested inner head).toList ++ symbols nested inner := by
  have drop (site : Site) := methods_cons_other nested inner other (some site.address)
  rw [symbols, List.filterMap_cons, symbol?_congr (drop head),
    filterMap_symbol?_congr fun site _ => drop site, symbols]
  cases symbol? nested inner head <;> rfl

theorem methods_of_class (nested : NestedFunctions) {address : Address} {statement : Statement}
    (isClass : statement.isClass = true) {around : Surroundings}
    (shorter : around.ShorterThan address.length) (body : List Statement) :
    methods nested (Statement.sitesAll ((address, statement) :: around) address 0 body)
      around.owner? = [] := by
  apply methods_eq_nil
  intro site member owned
  have short {owner : Address} (same : around.owner? = some owner) := shorter.owner same
  rcases owner_of_inner member with outside | ⟨owner, same, longer⟩
  · rw [Surroundings.owner?_cons_class _ _ isClass] at outside
    exact Nat.lt_irrefl _ (short (owned.symm.trans outside))
  · have bound := short (owned.symm.trans same)
    omega

theorem symbols_cons_function (nested : NestedFunctions) {address : Address}
    (header : FunctionHeader) (body : List Statement) {around : Surroundings}
    (shorter : around.ShorterThan address.length) :
    let head : Site := ⟨address, .functionDef header body, around⟩
    let inner := Statement.sitesAll ((address, head.statement) :: around) address 0 body
    symbols nested (head :: inner) = symbols nested [head] ++ symbols nested inner := by
  intro head inner
  rw [← List.singleton_append]
  apply symbols_append
  · intro site single other member owned
    rw [List.mem_singleton.mp single] at owned
    rcases owner_of_inner member with outside | ⟨owner, same, longer⟩
    · rw [Surroundings.owner?_cons_other _ _ rfl] at outside
      exact Nat.lt_irrefl _ (shorter.owner (outside.symm.trans owned))
    · cases owned.symm.trans same
      exact Nat.lt_irrefl _ longer
  · intro site member other single owned
    rw [List.mem_singleton.mp single] at owned
    have short := shorter.owner owned
    have long := length_of_inner member
    omega

end Site

end PythonDocs
