import PythonDocs.Text.Lines

namespace PythonDocs

structure Dependencies where
  names : List String
  distinct : names.Nodup

namespace Dependencies

def empty : Dependencies := ⟨[], .nil⟩

def insert (dependencies : Dependencies) (name : String) : Dependencies :=
  if present : name ∈ dependencies.names then dependencies
  else
    ⟨dependencies.names ++ [name], by
      rw [List.nodup_append]
      refine ⟨dependencies.distinct, by simp, ?_⟩
      intro other member added single same
      rw [List.mem_singleton] at single
      exact present (single ▸ same ▸ member)⟩

def ofList (names : List String) : Dependencies := names.foldl insert empty

def contains (dependencies : Dependencies) (name : String) : Bool :=
  dependencies.names.contains name

def isEmpty (dependencies : Dependencies) : Bool := dependencies.names.isEmpty

def size (dependencies : Dependencies) : Nat := dependencies.names.length

def root (path : String) : String := .ofList (path.toList.takeWhile (· ≠ '.'))

def addRoot (dependencies : Dependencies) (path : String) : Bool × Dependencies :=
  let name := root path
  if name = "" ∨ name ∈ dependencies.names then (false, dependencies)
  else (true, dependencies.insert name)

theorem names_empty : empty.names = [] := rfl

theorem names_insert (dependencies : Dependencies) (name : String) :
    (dependencies.insert name).names =
      if name ∈ dependencies.names then dependencies.names
      else dependencies.names ++ [name] := by
  unfold insert
  split <;> rfl

theorem mem_insert {dependencies : Dependencies} {name other : String} :
    other ∈ (dependencies.insert name).names ↔ other ∈ dependencies.names ∨ other = name := by
  rw [names_insert]
  split
  · constructor
    · exact .inl
    · rintro (member | rfl)
      · exact member
      · assumption
  · simp

theorem contains_eq_true_iff {dependencies : Dependencies} {name : String} :
    dependencies.contains name = true ↔ name ∈ dependencies.names := by
  simp [contains]

end Dependencies

end PythonDocs
