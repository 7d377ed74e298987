import PythonDocs.Proofs.Page.Entries

namespace PythonDocs

structure Answer where
  prompt : String
  reply : Except ServiceError String
  deriving Repr

def Service.logged {σ : Type} (service : Service σ) : Service (σ × List Answer) :=
  fun prompt (state, log) =>
    let (reply, state) := service prompt state
    (reply, state, log ++ [⟨prompt, reply⟩])

section

variable {σ τ : Type} {write : Symbol → σ → Option String × σ}
variable {other : Symbol → τ → Option String × τ} {forget : τ → σ}

mutual

theorem Entry.build_forget
    (same : ∀ symbol state, write symbol (forget state) =
      ((other symbol state).1, forget (other symbol state).2)) :
    (symbol : Symbol) → (state : τ) → build write symbol (forget state) =
      ((build other symbol state).1, forget (build other symbol state).2)
  | ⟨kind, name, args, returns, isAsync, source, methods⟩, state => by
    rw [build, build, same]
    dsimp only
    rw [buildAll_forget same methods]

theorem Entry.buildAll_forget
    (same : ∀ symbol state, write symbol (forget state) =
      ((other symbol state).1, forget (other symbol state).2)) :
    (symbols : List Symbol) → (state : τ) → buildAll write symbols (forget state) =
      ((buildAll other symbols state).1, forget (buildAll other symbols state).2)
  | [], state => by
    rw [buildAll, buildAll]
  | symbol :: rest, state => by
    rw [buildAll, buildAll, build_forget same symbol]
    dsimp only
    rw [buildAll_forget same rest]

end

end

namespace Service

section

variable {σ τ : Type}

/-- A service does in a part of the state of another one what that does. -/
def IsPartOf (service : Service σ) (other : Service τ) (forget : τ → σ) : Prop :=
  ∀ prompt state, service prompt (forget state) =
    ((other prompt state).1, forget (other prompt state).2)

variable {service : Service σ} {other : Service τ} {forget : τ → σ}

theorem IsPartOf.countedText (part : service.IsPartOf other forget) (settings : OutputSettings)
    (symbol : Symbol) (counted : Nat × τ) :
    service.countedText settings symbol (counted.1, forget counted.2) =
      ((other.countedText settings symbol counted).1,
        (other.countedText settings symbol counted).2.1,
        forget (other.countedText settings symbol counted).2.2) := by
  simp only [Service.countedText]
  split
  · simp only [docstring, part _ counted.2]
  · rfl

theorem IsPartOf.page (part : service.IsPartOf other forget) (settings : OutputSettings)
    (module path : String) (found : ModuleSymbols) (state : τ) :
    service.page settings module path found (forget state) =
      ((other.page settings module path found state).1,
        (other.page settings module path found state).2.1,
        forget (other.page settings module path found state).2.2) := by
  have entries (counted : Nat × τ) :
      Entry.buildAll (service.countedText settings) found.symbols
          (counted.1, forget counted.2) =
        ((Entry.buildAll (other.countedText settings) found.symbols counted).1,
          (Entry.buildAll (other.countedText settings) found.symbols counted).2.1,
          forget (Entry.buildAll (other.countedText settings) found.symbols counted).2.2) :=
    @Entry.buildAll_forget _ _ _ _ (fun counted => (counted.1, forget counted.2))
      (part.countedText settings) found.symbols counted
  have asked : service.readme found.symbols module (forget state) =
      ((other.readme found.symbols module state).1,
        forget (other.readme found.symbols module state).2) := by
    simp only [readme, part _ state]
  have same := entries (0, (other.readme found.symbols module state).2)
  dsimp only at same
  simp only [Service.page, asked, same]

end

section

variable {σ τ : Type} {first : Service σ} {second : Service τ} {related : σ → τ → Prop}

/-- Two services that answer alike in related states, and leave related states behind. -/
def AnswersLike (first : Service σ) (second : Service τ) (related : σ → τ → Prop) : Prop :=
  ∀ prompt state other, related state other →
    (first prompt state).1 = (second prompt other).1 ∧
      related (first prompt state).2 (second prompt other).2

def AnswersLike.joint (alike : first.AnswersLike second related) :
    Service { states : σ × τ // related states.1 states.2 } :=
  fun prompt states =>
    ((first prompt states.val.1).1,
      ⟨((first prompt states.val.1).2, (second prompt states.val.2).2),
        (alike prompt _ _ states.property).2⟩)

theorem AnswersLike.left (alike : first.AnswersLike second related) :
    first.IsPartOf alike.joint fun states => states.val.1 := fun _ _ => rfl

theorem AnswersLike.right (alike : first.AnswersLike second related) :
    second.IsPartOf alike.joint fun states => states.val.2 := by
  intro prompt states
  rw [joint, (alike prompt _ _ states.property).1]

end

variable {σ : Type} (service : Service σ) (settings : OutputSettings)

theorem isPartOf_logged : service.IsPartOf service.logged Prod.fst := fun _ _ => rfl

def ofReplies (replies : String → Except ServiceError String) : Service Unit :=
  fun prompt state => (replies prompt, state)

theorem isPartOf_ofReplies {service : Service σ} {replies : String → Except ServiceError String}
    (steady : ∀ prompt state, (service prompt state).1 = replies prompt) :
    (ofReplies replies).IsPartOf service fun _ => () := by
  intro prompt state
  rw [steady]
  rfl

theorem texts_logged (docstrings : settings.docstrings = true) (symbols : List Symbol)
    (count : Nat) (state : σ) (log : List Answer) :
    ∃ (answers : List Answer) (final : σ),
      answers.map Answer.prompt = symbols.map Prompt.docstring ∧
      Symbol.texts (service.logged.countedText settings) symbols (count, state, log) =
        (answers.map fun answer => some (docstringText answer.reply),
          count + symbols.length, final, log ++ answers) := by
  induction symbols generalizing count state log with
  | nil => exact ⟨[], state, rfl, by rw [List.append_nil]; rfl⟩
  | cons symbol rest ih =>
    let first : Answer := ⟨Prompt.docstring symbol, (service (Prompt.docstring symbol) state).1⟩
    obtain ⟨answers, final, prompts, texts⟩ :=
      ih (count + 1) (service (Prompt.docstring symbol) state).2 (log ++ [first])
    have counted : service.logged.countedText settings symbol (count, state, log) =
        (some (docstringText first.reply), count + 1, (service (Prompt.docstring symbol) state).2,
          log ++ [first]) := by
      simp only [countedText, docstrings, ↓reduceIte]
      rfl
    refine ⟨first :: answers, final, congrArg _ prompts, ?_⟩
    rw [Symbol.texts, counted]
    simp only [texts]
    rw [List.append_assoc, List.length_cons, Nat.add_assoc, Nat.add_comm 1]
    rfl

theorem texts_without (docstrings : settings.docstrings = false) (symbols : List Symbol)
    (count : Nat) (state : σ) :
    Symbol.texts (service.countedText settings) symbols (count, state) =
      (symbols.map fun _ => none, count + symbols.length, state) := by
  induction symbols generalizing count with
  | nil => rfl
  | cons symbol rest ih =>
    have counted : service.countedText settings symbol (count, state) =
        (none, count + 1, state) := by
      simp only [countedText, docstrings, Bool.false_eq_true, ↓reduceIte]
    rw [Symbol.texts, counted]
    simp only [ih]
    rw [List.length_cons, Nat.add_assoc, Nat.add_comm 1]
    rfl

theorem texts_answers (symbols : List Symbol) (count : Nat) (state : σ) (log : List Answer) :
    ∃ (answers : List Answer) (final : σ),
      answers.map Answer.prompt =
        (if settings.docstrings then symbols.map Prompt.docstring else []) ∧
      Symbol.texts (service.logged.countedText settings) symbols (count, state, log) =
        (if settings.docstrings then answers.map fun answer => some (docstringText answer.reply)
          else symbols.map fun _ => none,
          count + symbols.length, final, log ++ answers) := by
  by_cases docstrings : settings.docstrings = true
  · obtain ⟨answers, final, prompts, texts⟩ :=
      service.texts_logged settings docstrings symbols count state log
    refine ⟨answers, final, ?_, ?_⟩
    · rw [prompts, if_pos docstrings]
    · rw [texts, if_pos docstrings]
  · refine ⟨[], state, ?_, ?_⟩
    · rw [if_neg docstrings, List.map_nil]
    · rw [texts_without _ _ (by simpa using docstrings), if_neg docstrings, List.append_nil]

end Service

/-- A page quotes answers: its introduction is the reply to the prompt of its module, and the text
behind every heading is the reply to the prompt of that symbol. -/
structure Page.Quotes (settings : OutputSettings) (symbols : List Symbol) (introduction : Answer)
    (docstrings : List Answer) (page : Page) : Prop where
  asked : introduction.prompt = Prompt.readme symbols page.module
  readme : page.readme = Service.readmeText page.module introduction.reply
  prompts : docstrings.map Answer.prompt =
    if settings.docstrings then (Symbol.withMethods symbols).map Prompt.docstring else []
  described : List.Forall₂ Entry.Describes symbols page.entries
  texts : (Entry.withMethods page.entries).map Entry.docstring =
    if settings.docstrings then
      docstrings.map fun answer => some (Service.docstringText answer.reply)
    else (Symbol.withMethods symbols).map fun _ => none
  rendered : page.render = page.readme ++ "\n" ++ diagramSection page.diagram ++
    Symbol.reference symbols ((Entry.withMethods page.entries).map Entry.docstring) ++
    footer page.path

theorem Service.page_quotes {σ : Type} (service : Service σ) (settings : OutputSettings)
    (module path : String) {found : ModuleSymbols} (flat : Symbol.AreFlat found.symbols)
    (state : σ) (log : List Answer) :
    ∃ introduction docstrings,
      (service.logged.page settings module path found (state, log)).2.2.2 =
        log ++ introduction :: docstrings ∧
      (service.logged.page settings module path found (state, log)).1.Quotes settings
        found.symbols introduction docstrings := by
  let introduction : Answer := ⟨Prompt.readme found.symbols module,
    (service (Prompt.readme found.symbols module) state).1⟩
  let after := (service (Prompt.readme found.symbols module) state).2
  obtain ⟨texts, final, described⟩ := Entry.buildAll_symbols
    (service.logged.countedText settings) flat (0, after, log ++ [introduction])
  obtain ⟨docstrings, last, prompts, written⟩ := service.texts_answers settings
    (Symbol.withMethods found.symbols) 0 after (log ++ [introduction])
  rw [written] at texts final
  refine ⟨introduction, docstrings, ?_, rfl, rfl, prompts, described, texts, ?_⟩
  · have kept := congrArg (fun counted => counted.2.2) final
    rw [← List.singleton_append, ← List.append_assoc]
    exact kept
  · exact Page.render_eq described

end PythonDocs
