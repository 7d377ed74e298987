import PythonDocs.Proofs.Extraction.Contents

namespace PythonDocs

namespace Statement

def isGroup : Statement → Bool
  | group _ => true
  | _ => false

end Statement

def Outline.entries (outline : Outline) : List Site :=
  outline.sites.filter fun site => !site.statement.isGroup

def Site.Encloses (outer inner : Site) : Prop := (outer.address, outer.statement) ∈ inner.around

namespace Site

theorem IsBelow.not_encloses {site other : Site} {address : Address} {around : Surroundings}
    {first second : Nat} (siteBelow : site.IsBelow (address ++ [first]) around)
    (otherBelow : other.IsBelow (address ++ [second]) around) (apart : first ≠ second)
    (shorter : around.ShorterThan (address.length + 1)) : ¬ site.Encloses other :=
  fun member => siteBelow.not_around otherBelow apart shorter _ member rfl

theorem encloses_of_inner {statement : Statement} {around : Surroundings} {address : Address}
    {index : Nat} {body : List Statement} {site : Site}
    (member : site ∈ Statement.sitesAll ((address, statement) :: around) address index body) :
    Encloses ⟨address, statement, around⟩ site := by
  obtain ⟨place, -, -, inner, same, -⟩ := Statement.sitesAll_below _ _ _ _ site member
  rw [Encloses, same]
  exact List.mem_append_right _ List.mem_cons_self

theorem not_encloses_of_shorter {site other : Site} {length : Nat}
    (shorter : site.around.ShorterThan length) (long : length ≤ other.address.length) :
    ¬ other.Encloses site :=
  fun member => Nat.not_lt_of_le long (shorter _ member)

end Site

end PythonDocs
