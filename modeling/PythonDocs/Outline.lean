namespace PythonDocs

structure FunctionHeader where
  name : String
  params : List String := []
  returns : Option String := none
  isAsync : Bool := false
  source : String := ""
  deriving DecidableEq, Repr

/-- Statements that matter for documentation. All others are dropped, and those that hold such
statements are groups. -/
inductive Statement
  | imports (names : List String)
  | importFrom (module : Option String)
  | classDef (name source : String) (body : List Statement)
  | functionDef (header : FunctionHeader) (body : List Statement)
  | group (body : List Statement)
  deriving Repr, Inhabited

abbrev Outline := List Statement

/-- Lines and columns start at 1, and a column counts bytes. -/
structure Position where
  line : Nat
  column : Nat
  deriving DecidableEq, Repr

end PythonDocs
