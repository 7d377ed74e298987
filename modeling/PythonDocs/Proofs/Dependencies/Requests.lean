import Mathlib.Data.List.Induction
import Mathlib.Data.List.TakeWhile
import PythonDocs.Dependencies
import PythonDocs.Proofs.Text.Pieces

namespace PythonDocs

open Text

section FirstOccurrences

variable {α : Type} [DecidableEq α]

theorem eraseDups_snoc (items : List α) (item : α) : (items ++ [item]).eraseDups =
    if item ∈ items then items.eraseDups else items.eraseDups ++ [item] := by
  rw [List.eraseDups_append, List.removeAll]
  split <;> simp [List.eraseDups_cons, *]

theorem eraseDups_append_filter (first second : List α) : (first ++ second).eraseDups =
    first.eraseDups ++ (second.filter (· ∉ first)).eraseDups := by
  simp [List.eraseDups_append, List.removeAll]

end FirstOccurrences

namespace Dependencies

inductive Request
  | addRoot (path : String)
  | contains (name : String)

def answer (dependencies : Dependencies) : Request → Bool × Dependencies
  | .addRoot path => dependencies.addRoot path
  | .contains name => (dependencies.contains name, dependencies)

def answers (dependencies : Dependencies) : List Request → List Bool × Dependencies
  | [] => ([], dependencies)
  | request :: rest =>
    let (told, next) := dependencies.answer request
    let (later, last) := next.answers rest
    (told :: later, last)

def firstComponent? (path : String) : Option String :=
  ((splitOn '.' path.toList).head?.filter (· ≠ [])).map .ofList

def Request.component? : Request → Option String
  | .addRoot path => firstComponent? path
  | .contains _ => none

/-- What an answer tells. A path is taken over exactly if the names get longer by one, which is its
first component at the end, and nothing changes otherwise. -/
def Request.Tells (before : Dependencies) (told : Bool) (after : Dependencies) : Request → Prop
  | .addRoot path =>
    (told = true ↔ after.size = before.size + 1) ∧
      (told = true ↔ ∃ name, firstComponent? path = some name ∧
        after.names = before.names ++ [name]) ∧
      (told = false → after = before)
  | .contains name => (told = true ↔ name ∈ before.names) ∧ after = before

variable {dependencies : Dependencies} {request : Request} {path name : String}

theorem head?_splitOn (separator : Char) (text : List Char) :
    (splitOn separator text).head? = some (text.takeWhile (· ≠ separator)) := by
  induction text with
  | nil => rfl
  | cons c rest ih =>
    by_cases same : c = separator
    · simp [same, splitOn_cons_separator]
    · obtain ⟨piece, more, split⟩ := List.exists_cons_of_ne_nil (splitOn_ne_nil separator rest)
      rw [split, List.head?_cons, Option.some_inj] at ih
      rw [splitOn_cons_other same split, List.head?_cons, ih]
      simp [same]

theorem root_eq_empty_iff : root path = "" ↔ path.toList.takeWhile (· ≠ '.') = [] := by
  rw [root, ← String.toList_inj, String.toList_ofList, String.toList_empty]

theorem firstComponent?_eq (path : String) :
    firstComponent? path = if root path = "" then none else some (root path) := by
  simp only [firstComponent?, head?_splitOn, root_eq_empty_iff, Option.filter_some]
  split <;> simp_all [root]

theorem firstComponent?_eq_some_iff :
    firstComponent? path = some name ↔ root path = name ∧ name ≠ "" := by
  rw [firstComponent?_eq]
  split <;> grind

theorem not_mem_firstComponent (given : firstComponent? path = some name) :
    '.' ∉ name.toList := by
  obtain ⟨rfl, -⟩ := firstComponent?_eq_some_iff.mp given
  intro member
  rw [root, String.toList_ofList] at member
  simpa using List.mem_takeWhile_imp member

theorem names_answer (dependencies : Dependencies) (request : Request) :
    (dependencies.answer request).2.names =
      match request.component? with
      | some name =>
        if name ∈ dependencies.names then dependencies.names else dependencies.names ++ [name]
      | none => dependencies.names := by
  cases request with
  | contains name => rfl
  | addRoot path =>
    simp only [answer, addRoot, Request.component?, firstComponent?_eq]
    by_cases empty : root path = ""
    · simp [empty]
    · by_cases present : root path ∈ dependencies.names <;> simp [empty, present, names_insert]

theorem tells_answer (dependencies : Dependencies) (request : Request) :
    request.Tells dependencies (dependencies.answer request).1
      (dependencies.answer request).2 := by
  cases request with
  | contains name => exact ⟨contains_eq_true_iff, rfl⟩
  | addRoot path =>
    simp only [Request.Tells, answer, addRoot, firstComponent?_eq_some_iff]
    split
    · simp
    · rename_i added
      obtain ⟨some, new⟩ := not_or.mp added
      simp [size, names_insert, new, some]

theorem isPrefix_answer (dependencies : Dependencies) (request : Request) :
    dependencies.names <+: (dependencies.answer request).2.names := by
  rw [names_answer]
  split
  · split
    · exact List.prefix_refl _
    · exact List.prefix_append _ _
  · exact List.prefix_refl _

theorem answers_append (dependencies : Dependencies) (first second : List Request) :
    dependencies.answers (first ++ second) =
      ((dependencies.answers first).1 ++ ((dependencies.answers first).2.answers second).1,
        ((dependencies.answers first).2.answers second).2) := by
  induction first generalizing dependencies with
  | nil => rfl
  | cons request rest ih => simp only [List.cons_append, answers, ih]

theorem length_answers (dependencies : Dependencies) (requests : List Request) :
    (dependencies.answers requests).1.length = requests.length := by
  induction requests generalizing dependencies with
  | nil => rfl
  | cons request rest ih => simp only [answers, List.length_cons, ih]

theorem isPrefix_answers (dependencies : Dependencies) (requests : List Request) :
    dependencies.names <+: (dependencies.answers requests).2.names := by
  induction requests generalizing dependencies with
  | nil => exact List.prefix_refl _
  | cons request rest ih => exact (isPrefix_answer dependencies request).trans (ih _)

theorem names_ofList (names : List String) : (ofList names).names = names.eraseDups := by
  induction names using List.reverseRecOn with
  | nil => rfl
  | append_singleton before name ih =>
    have last : ofList (before ++ [name]) = (ofList before).insert name := List.foldl_append
    rw [last, names_insert, eraseDups_snoc, ih]
    simp only [List.mem_eraseDups]

theorem names_answers_ofList (names : List String) (requests : List Request) :
    ((ofList names).answers requests).2.names =
      (names ++ requests.filterMap Request.component?).eraseDups := by
  induction requests using List.reverseRecOn with
  | nil => simp [answers, names_ofList]
  | append_singleton before request ih =>
    have last : ((ofList names).answers (before ++ [request])).2 =
        (((ofList names).answers before).2.answer request).2 := by
      rw [answers_append]
      rfl
    rw [last, names_answer, List.filterMap_append, ← List.append_assoc]
    cases added : request.component? with
    | none => simp [added, ih]
    | some name =>
      have single : [request].filterMap Request.component? = [name] := by simp [added]
      rw [single, eraseDups_snoc, ih]
      simp only [List.mem_eraseDups]

/-- The names after any requests are those given at the start, each where it first occurs, and behind
them the first components of the paths that were added, each where it first occurs and without those
that were given. They never repeat, and what was added has no dot and is not empty. Every request is
answered, as the names are then; no name is moved or dropped. -/
theorem answers_tell (names : List String) (requests : List Request) :
    ((ofList names).answers requests).2.names = names.eraseDups ++
        ((requests.filterMap Request.component?).filter (· ∉ names)).eraseDups ∧
      ((ofList names).answers requests).2.names.Nodup ∧
      (∀ name ∈ ((ofList names).answers requests).2.names.drop names.eraseDups.length,
        name ≠ "" ∧ '.' ∉ name.toList) ∧
      ((ofList names).answers requests).1.length = requests.length ∧
      ∀ before request after, requests = before ++ request :: after →
        ∃ told, ((ofList names).answers requests).1[before.length]? = some told ∧
          request.Tells ((ofList names).answers before).2 told
            ((ofList names).answers (before ++ [request])).2 ∧
          ((ofList names).answers before).2.names <+:
            ((ofList names).answers requests).2.names := by
  have listed := names_answers_ofList names requests
  rw [eraseDups_append_filter] at listed
  refine ⟨listed, Dependencies.distinct _, ?_, length_answers _ _, ?_⟩
  · intro name member
    rw [listed, List.drop_left, List.mem_eraseDups] at member
    obtain ⟨request, -, given⟩ := List.mem_filterMap.mp (List.mem_filter.mp member).1
    cases request with
    | contains other => cases given
    | addRoot path => exact ⟨(firstComponent?_eq_some_iff.mp given).2, not_mem_firstComponent given⟩
  · rintro before request after rfl
    have ends : ((ofList names).answers (before ++ [request])).2 =
        (((ofList names).answers before).2.answer request).2 := by
      rw [answers_append]
      rfl
    refine ⟨(((ofList names).answers before).2.answer request).1, ?_, ?_, ?_⟩
    · have before_le := Nat.le_of_eq (length_answers (ofList names) before)
      rw [answers_append, List.getElem?_append_right before_le, length_answers]
      simp [answers]
    · rw [ends]
      exact tells_answer _ _
    · rw [answers_append]
      exact isPrefix_answers _ _

def mixedNames : List String := ["zlib", "a.b", "zlib"]

def mixedRequests : List Request :=
  [.addRoot "os.path", .contains "a.b", .addRoot "os", .addRoot ".x"]

def mixed (count : Nat) : Dependencies := ((ofList mixedNames).answers (mixedRequests.take count)).2

theorem mixedRequests_tell :
    (mixed 4).names = ["zlib", "a.b", "os"] ∧ ("os" ≠ "" ∧ '.' ∉ "os".toList) ∧
      ∃ told, ((ofList mixedNames).answers mixedRequests).1[2]? = some told ∧
        (Request.addRoot "os").Tells (mixed 2) told (mixed 3) ∧
        (mixed 2).names <+: (mixed 4).names := by
  obtain ⟨-, -, added, -, each⟩ := answers_tell mixedNames mixedRequests
  refine ⟨by decide, added "os" (by decide), ?_⟩
  exact each [.addRoot "os.path", .contains "a.b"] (.addRoot "os") [.addRoot ".x"] rfl

end Dependencies

end PythonDocs
