import Mathlib.Data.List.Forall2
import PythonDocs.Discovery

namespace PythonDocs

section

variable {α β ε : Type} {read : α → Except ε β} {items : List α}

theorem mapM_eq_ok_iff {values : List β} : items.mapM read = .ok values ↔
    List.Forall₂ (fun item value => read item = .ok value) items values := by
  induction items generalizing values with
  | nil => simp [pure, Except.pure, eq_comm]
  | cons item rest ih =>
    rw [List.mapM_cons, List.forall₂_cons_left_iff]
    constructor
    · intro given
      cases first : read item with
      | error problem => simp [first, bind, Except.bind] at given
      | ok value =>
        cases others : rest.mapM read with
        | error problem => simp [first, others, bind, Except.bind] at given
        | ok more =>
          simp only [first, others, bind, Except.bind, pure, Except.pure, Except.ok.injEq] at given
          exact ⟨value, more, rfl, ih.mp others, given.symm⟩
    · intro given
      obtain ⟨value, more, first, others, rfl⟩ := given
      rw [first, ih.mpr others]
      rfl

theorem exists_mapM_iff :
    (∃ values, items.mapM read = .ok values) ↔ ∀ item ∈ items, ∃ value, read item = .ok value := by
  simp only [mapM_eq_ok_iff]
  induction items with
  | nil => simp
  | cons item rest ih =>
    rw [List.forall_mem_cons, ← ih]
    constructor
    · intro given
      obtain ⟨values, related⟩ := given
      cases related with
      | cons first others => exact ⟨⟨_, first⟩, _, others⟩
    · intro given
      obtain ⟨⟨value, first⟩, values, others⟩ := given
      exact ⟨value :: values, .cons first others⟩

end

namespace Glob

def IsPattern (text : String) : Prop := ∃ glob, ofText text = .ok glob

def accepts (pattern path : String) : Bool :=
  match ofText pattern with
  | .ok glob => glob.isMatch path
  | .error _ => false

theorem any_accepts {patterns : List String} {globs : List Glob}
    (compiled : patterns.mapM ofText = .ok globs) (path : String) :
    globs.any (·.isMatch path) = patterns.any (accepts · path) := by
  have related := mapM_eq_ok_iff.mp compiled
  clear compiled
  induction related with
  | nil => rfl
  | cons first _ ih => rw [List.any_cons, List.any_cons, ih, accepts, first]

end Glob

namespace Selection

variable {settings : AnalysisSettings} {selection : Selection}

theorem ofSettings_eq_ok_iff : ofSettings settings = .ok selection ↔
    settings.included.mapM Glob.ofText = .ok selection.included ∧
      settings.excluded.mapM Glob.ofText = .ok selection.excluded := by
  unfold ofSettings
  cases settings.included.mapM Glob.ofText with
  | error problem => simp [bind, Except.bind]
  | ok included =>
    cases settings.excluded.mapM Glob.ofText with
    | error problem => simp [bind, Except.bind]
    | ok excluded =>
      obtain ⟨first, second⟩ := selection
      simp [bind, Except.bind, pure, Except.pure]

theorem exists_ofSettings_iff : (∃ selection, ofSettings settings = .ok selection) ↔
    (∀ pattern ∈ settings.included, Glob.IsPattern pattern) ∧
      ∀ pattern ∈ settings.excluded, Glob.IsPattern pattern := by
  simp only [Glob.IsPattern, ← exists_mapM_iff, ofSettings_eq_ok_iff]
  constructor
  · intro given
    obtain ⟨selection, included, excluded⟩ := given
    exact ⟨⟨_, included⟩, _, excluded⟩
  · intro given
    obtain ⟨⟨included, first⟩, excluded, second⟩ := given
    exact ⟨⟨included, excluded⟩, first, second⟩

theorem wants_eq (compiled : ofSettings settings = .ok selection) (path : String) :
    selection.wants path = (settings.included.any (Glob.accepts · path) &&
      !settings.excluded.any (Glob.accepts · path)) := by
  obtain ⟨included, excluded⟩ := ofSettings_eq_ok_iff.mp compiled
  rw [wants, Glob.any_accepts included, Glob.any_accepts excluded]

theorem exists_alike (compiled : ofSettings settings = .ok selection) {others : AnalysisSettings}
    (included : ∀ pattern, pattern ∈ others.included ↔ pattern ∈ settings.included)
    (excluded : ∀ pattern, pattern ∈ others.excluded ↔ pattern ∈ settings.excluded) :
    ∃ alike, ofSettings others = .ok alike ∧ ∀ path, alike.wants path = selection.wants path := by
  have patterns := exists_ofSettings_iff.mp ⟨selection, compiled⟩
  simp only [← included, ← excluded] at patterns
  obtain ⟨alike, found⟩ := exists_ofSettings_iff.mpr patterns
  refine ⟨alike, found, fun path => ?_⟩
  rw [wants_eq found, wants_eq compiled, Bool.eq_iff_iff]
  simp only [Bool.and_eq_true, Bool.not_eq_true', List.any_eq_true, List.any_eq_false, included,
    excluded]

theorem exists_narrower (compiled : ofSettings settings = .ok selection) {more : List String}
    (right : ∀ pattern ∈ more, Glob.IsPattern pattern) :
    ∃ narrower, ofSettings { settings with excluded := settings.excluded ++ more } = .ok narrower ∧
      ∀ path, narrower.wants path = (selection.wants path && !more.any (Glob.accepts · path)) := by
  obtain ⟨included, excluded⟩ := exists_ofSettings_iff.mp ⟨selection, compiled⟩
  have wider : ∃ narrower,
      ofSettings { settings with excluded := settings.excluded ++ more } = .ok narrower :=
    exists_ofSettings_iff.mpr ⟨included, List.forall_mem_append.mpr ⟨excluded, right⟩⟩
  obtain ⟨narrower, found⟩ := wider
  refine ⟨narrower, found, fun path => ?_⟩
  rw [wants_eq found, wants_eq compiled, List.any_append, Bool.not_or, Bool.and_assoc]

end Selection

end PythonDocs
