import PythonDocs.Environment.Basic

namespace PythonDocs

namespace Assignments

def ValueState.silent (state : ValueState) : ValueState := { state with output := [] }

variable {value other : String → String} {first second : ValueState}

theorem step_silent (value other : String → String) (state : ValueState) (c : Char) :
    (state.silent.step other c).map ValueState.silent =
      (state.step value c).map ValueState.silent := by
  simp only [ValueState.step, apply_ite (Option.map ValueState.silent), apply_ite some,
    Option.map_some, Option.map_none]
  rfl

theorem close_isSome (same : first.silent = second.silent) :
    (first.close value).isSome = (second.close other).isSome := by
  have naming : first.naming = second.naming := congrArg (·.naming) same
  have single : first.single = second.single := congrArg (·.single) same
  have double : first.double = second.double := congrArg (·.double) same
  simp only [ValueState.close, naming, single, double]
  split <;> rfl

theorem readValue_isSome (same : first.silent = second.silent) (text : List Char) :
    (readValue value first text).isSome = (readValue other second text).isSome := by
  induction text generalizing first second with
  | nil => exact close_isSome same
  | cons c rest ih =>
    have finished : first.finished = second.finished := congrArg (·.finished) same
    have step : (first.step value c).map ValueState.silent =
        (second.step other c).map ValueState.silent := by
      rw [← step_silent value other first, same, step_silent other other second]
    simp only [readValue, finished]
    split
    · exact close_isSome same
    · cases stepped : first.step value c with
      | none =>
        rw [stepped, Option.map_none, eq_comm, Option.map_eq_none_iff] at step
        rw [step]
      | some next =>
        rw [stepped, Option.map_some, eq_comm, Option.map_eq_some_iff] at step
        obtain ⟨last, stepped, alike⟩ := step
        rw [stepped]
        exact ih alike.symm

def readName? (line : List Char) : Option (Option String) :=
  (readLine (fun _ => "") line).map (·.map Prod.fst)

theorem readLine_name (value : String → String) (line : List Char) :
    (readLine value line).map (·.map Prod.fst) = readName? line := by
  simp only [readName?, readLine]
  split
  · rfl
  · cases readTarget (skipBlank (Text.trimEnd line)) with
    | none => rfl
    | some target =>
      obtain ⟨name, rest⟩ := target
      simp only [Option.bind_eq_bind, Option.bind_some]
      split
      · rfl
      · have same : (readValue value {} rest).isSome = (readValue (fun _ => "") {} rest).isSome :=
          readValue_isSome rfl rest
        cases read : readValue value {} rest <;> cases silent : readValue (fun _ => "") {} rest <;>
          simp_all

def isReadable (line : List Char) : Bool := (readName? line).isSome

def readableLines : List (Option (List Char)) → List (List Char)
  | [] | none :: _ => []
  | some line :: rest => if isReadable line then line :: readableLines rest else []

end Assignments

namespace Environment

open Assignments

/-- What lines assign, in their order. A value may use the variables of the environment and, where
one is not set there, what a line before has first assigned to it. -/
def assigned (environment : Environment) : List (List Char) → List (String × String)
  | [] => []
  | line :: rest =>
    match readLine (fun name => (environment.get? name).getD "") line with
    | some (some assignment) => assignment :: assigned (environment ++ [assignment]) rest
    | _ => assigned environment rest

def assignedIn (environment : Environment) (bytes : Text.Bytes) : List (String × String) :=
  environment.assigned
    (readableLines (joinLines [] .complete (physicalLines (withoutMark bytes))))

variable {environment before after : Environment} {assigned : List (String × String)}

theorem get?_append (first second : Environment) (name : String) :
    (first ++ second).get? name = (first.get? name).or (second.get? name) := List.lookup_append

theorem get?_setNew {name value : String}
    (set : environment.setNew? name value = some after) (other : String) :
    after.get? other = (environment ++ [(name, value)]).get? other := by
  rw [get?_append]
  unfold setNew? at set
  split at set
  · rename_i old known
    cases set
    by_cases same : other = name
    · rw [same, known, Option.some_or]
    · have apart : List.lookup other [(name, value)] = none := by simp [same]
      rw [get?, get?, apart, Option.or_none]
  · split at set
    · cases set
      rw [get?_append]
    · cases set

theorem setNew?_eq_none_iff {name value : String} : environment.setNew? name value = none ↔
    environment.get? name = none ∧ isSettable value = false := by
  unfold setNew?
  split
  · rename_i known
    simp [known]
  · rename_i unset
    simp [unset]

theorem isSettable_of_setNew {name value : String}
    (set : environment.setNew? name value = some after) (unset : environment.get? name = none) :
    isSettable value = true := by
  cases settable : isSettable value with
  | true => rfl
  | false =>
    rw [setNew?_eq_none_iff.mpr ⟨unset, settable⟩] at set
    cases set

theorem assigned_nil (environment : Environment) : environment.assigned [] = [] := rfl

theorem valueOf_eq (same : ∀ name, environment.get? name = before.get? name)
    (known : ∀ name, environment.get? name = none → assigned.lookup name = none) :
    environment.valueOf assigned = fun name => (before.get? name).getD "" := by
  funext name
  rw [valueOf, ← same]
  cases given : environment.get? name with
  | none => rw [known name given, Option.none_or]
  | some value => rfl

/-- The assignments that count, the first to each name without a value, can all be set. -/
def SetsAll (environment : Environment) (assignments : List (String × String)) : Prop :=
  ∀ name value, environment.get? name = none → assignments.lookup name = some value →
    isSettable value = true

theorem setsAll_nil (environment : Environment) : environment.SetsAll [] := nofun

theorem setsAll_cons {name value : String} {rest : List (String × String)} :
    environment.SetsAll ((name, value) :: rest) ↔
      (environment.get? name = none → isSettable value = true) ∧
        (environment ++ [(name, value)]).SetsAll rest := by
  constructor
  · intro sets
    refine ⟨fun unset => sets name value unset (by simp), fun other found unset later => ?_⟩
    rw [get?_append, Option.or_eq_none_iff] at unset
    have apart : other ≠ name := by
      rintro rfl
      simp [get?] at unset
    refine sets other found unset.1 ?_
    rw [List.lookup_cons, beq_false_of_ne apart]
    exact later
  · rintro ⟨first, later⟩ other found unset counts
    by_cases same : other = name
    · subst same
      rw [List.lookup_cons_self, Option.some_inj] at counts
      exact counts ▸ first unset
    · rw [List.lookup_cons, beq_false_of_ne same] at counts
      refine later other found ?_ counts
      rw [get?_append, unset, Option.none_or, get?, List.lookup_cons, beq_false_of_ne same]
      rfl

/-- Lines are loaded whole if what they assign can be set, and otherwise not at all. -/
theorem loadLines_spec (same : ∀ name, environment.get? name = before.get? name)
    (known : ∀ name, environment.get? name = none → assigned.lookup name = none)
    (lines : List (Option (List Char))) :
    (∃ after, environment.loadLines assigned lines = some after ∧
      before.SetsAll (before.assigned (readableLines lines)) ∧
      ∀ name, after.get? name = (before ++ before.assigned (readableLines lines)).get? name) ∨
    environment.loadLines assigned lines = none ∧
      ¬ before.SetsAll (before.assigned (readableLines lines)) := by
  induction lines generalizing environment before assigned with
  | nil =>
    rw [loadLines, readableLines, assigned_nil, List.append_nil]
    exact .inl ⟨environment, rfl, setsAll_nil before, same⟩
  | cons first rest ih =>
    cases first with
    | none =>
      rw [loadLines, readableLines, assigned_nil, List.append_nil]
      exact .inl ⟨environment, rfl, setsAll_nil before, same⟩
    | some line =>
      have readable := readLine_name (fun name => (before.get? name).getD "") line
      rw [loadLines, readableLines, isReadable, ← readable, valueOf_eq same known]
      cases read : readLine (fun name => (before.get? name).getD "") line with
      | none =>
        refine .inl ⟨environment, rfl, ?_, ?_⟩
        · exact setsAll_nil before
        · simp [assigned_nil, same]
      | some found =>
        simp only [Option.map_some, Option.isSome_some, ↓reduceIte]
        cases found with
        | none =>
          rw [Environment.assigned, read]
          exact ih same known
        | some assignment =>
          obtain ⟨given, value⟩ := assignment
          rw [Environment.assigned, read]
          simp only [setsAll_cons]
          cases set : environment.setNew? given value with
          | none =>
            obtain ⟨unset, bad⟩ := setNew?_eq_none_iff.mp set
            refine .inr ⟨rfl, fun sets => ?_⟩
            rw [sets.1 (same given ▸ unset)] at bad
            cases bad
          | some next =>
            have step (name : String) :
                next.get? name = (before ++ [(given, value)]).get? name := by
              rw [get?_setNew set, get?_append, get?_append, same]
            have behind : ∀ name, next.get? name = none →
                ((given, value) :: assigned).lookup name = none := by
              intro name unset
              rw [get?_setNew set, get?_append, Option.or_eq_none_iff] at unset
              have apart : name ≠ given := by
                rintro rfl
                simp [get?] at unset
              rw [List.lookup_cons, beq_false_of_ne apart]
              exact known name unset.1
            have settable (unset : before.get? given = none) : isSettable value = true :=
              isSettable_of_setNew set ((same given).trans unset)
            rcases ih step behind with ⟨after, loaded, sets, values⟩ | ⟨crashed, bad⟩
            · refine .inl ⟨after, loaded, ⟨settable, sets⟩, fun name => ?_⟩
              rw [values, List.append_assoc, List.singleton_append]
            · exact .inr ⟨crashed, fun sets => bad sets.2⟩

theorem load_spec (environment : Environment) (bytes : Text.Bytes) :
    (∃ after, environment.load bytes = some after ∧
      environment.SetsAll (environment.assignedIn bytes) ∧
      ∀ name, after.get? name = (environment ++ environment.assignedIn bytes).get? name) ∨
    environment.load bytes = none ∧ ¬ environment.SetsAll (environment.assignedIn bytes) :=
  loadLines_spec (fun _ => rfl) (fun _ _ => rfl) _

theorem load_eq_none_iff (environment : Environment) (bytes : Text.Bytes) :
    environment.load bytes = none ↔ ¬ environment.SetsAll (environment.assignedIn bytes) := by
  rcases environment.load_spec bytes with ⟨after, loaded, sets, -⟩ | ⟨crashed, bad⟩
  · exact iff_of_false (by simp [loaded]) (fun bad => bad sets)
  · exact iff_of_true crashed bad

theorem get?_load {bytes : Text.Bytes} (loaded : environment.load bytes = some after)
    (name : String) : after.get? name = (environment ++ environment.assignedIn bytes).get? name := by
  rcases environment.load_spec bytes with ⟨other, same, -, values⟩ | ⟨crashed, -⟩
  · obtain rfl : after = other := Option.some.inj (loaded.symm.trans same)
    exact values name
  · rw [crashed] at loaded
    cases loaded

theorem get?_ne_none_of_mem {name : String}
    (member : name ∈ environment.map Prod.fst) : environment.get? name ≠ none := by
  obtain ⟨entry, inside, rfl⟩ := List.mem_map.mp member
  intro unset
  have apart := List.lookup_eq_none_iff.mp unset entry inside
  simp at apart

theorem mem_map_assigned {line : List Char} {name : String}
    (named : readName? line = some (some name)) {lines : List (List Char)}
    (member : line ∈ lines) (environment : Environment) :
    name ∈ (environment.assigned lines).map Prod.fst := by
  induction lines generalizing environment with
  | nil => cases member
  | cons first rest ih =>
    have read := readLine_name (fun name => (environment.get? name).getD "") first
    rw [Environment.assigned]
    rcases List.mem_cons.mp member with rfl | later
    · rw [named, Option.map_eq_some_iff] at read
      obtain ⟨found, read, assigns⟩ := read
      obtain ⟨assignment, rfl, rfl⟩ := Option.map_eq_some_iff.mp assigns
      rw [read]
      exact List.mem_cons_self
    · split
      · exact List.mem_cons_of_mem _ (ih later _)
      · exact ih later _

/-- A file that assigns only to variables that are set changes nothing. -/
theorem loadLines_of_set {lines : List (Option (List Char))}
    (set : ∀ line ∈ readableLines lines, ∀ name, readName? line = some (some name) →
      environment.get? name ≠ none) :
    environment.loadLines assigned lines = some environment := by
  induction lines generalizing assigned with
  | nil => rfl
  | cons first rest ih =>
    cases first with
    | none => rfl
    | some line =>
      have named := readLine_name (environment.valueOf assigned) line
      rw [loadLines]
      cases read : readLine (environment.valueOf assigned) line with
      | none => rfl
      | some found =>
        rw [read, Option.map_some] at named
        rw [readableLines, isReadable, ← named, Option.isSome_some, if_pos rfl,
          List.forall_mem_cons] at set
        cases found with
        | none => exact ih set.2
        | some assignment =>
          obtain ⟨value, known⟩ := Option.ne_none_iff_exists'.mp (set.1 assignment.1 named.symm)
          have kept : environment.setNew? assignment.1 assignment.2 = some environment := by
            rw [setNew?, known]
          simp only [kept]
          exact ih set.2

theorem load_load {bytes : Text.Bytes} (loaded : environment.load bytes = some after) :
    after.load bytes = some after := by
  refine loadLines_of_set fun line member name named => ?_
  rw [get?_load loaded, get?_append]
  intro unset
  exact get?_ne_none_of_mem (mem_map_assigned named member environment)
    (Option.or_eq_none_iff.mp unset).2

end Environment

end PythonDocs
