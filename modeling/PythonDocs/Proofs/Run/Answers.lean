import PythonDocs.Proofs.Run.Steps
import PythonDocs.Proofs.Service.Log

namespace PythonDocs

variable {σ τ : Type}

def Progress.viewed (view : τ → σ) (progress : Progress τ) : Progress σ :=
  { tree := progress.tree
    service := view progress.service
    report := progress.report
    claimed := progress.claimed }

namespace Service.IsPartOf

variable {service : Service σ} {other : Service τ} {forget : τ → σ}
variable (part : service.IsPartOf other forget) (plan : Plan) (base : List Component)
variable (output : FilePath)

include part

theorem document (path : FilePath) (progress : Progress τ) :
    plan.document service base output path (progress.viewed forget) =
      ((plan.document other base output path progress).1,
        (plan.document other base output path progress).2.viewed forget) := by
  unfold Plan.document
  simp only [Progress.viewed]
  split
  · rfl
  · rename_i found documented
    simp only [part.page plan.settings.output _ _ found progress.service]
    split <;> rfl

theorem documentAll (files : List FilePath) (progress : Progress τ) :
    plan.documentAll service base output files (progress.viewed forget) =
      ((plan.documentAll other base output files progress).1,
        (plan.documentAll other base output files progress).2.viewed forget) :=
  Plan.documentAll_viewed (Progress.viewed forget) (part.document plan base output) files progress

theorem run (root : FilePath) (tree : FileTree) (state : τ) :
    plan.run service root output tree (forget state) =
      ((plan.run other root output tree state).1,
        (plan.run other root output tree state).2.1,
        forget (plan.run other root output tree state).2.2) := by
  unfold Plan.run
  split
  · rfl
  · split
    · rfl
    · rename_i files discovered
      split
      · rfl
      · rename_i made directories
        have documented := part.documentAll plan (runBase made root) output files
          { tree := made, service := state }
        rw [Progress.viewed] at documented
        rw [documented]
        cases plan.documentAll other (runBase made root) output files
            { tree := made, service := state } with
        | mk problem last => cases problem <;> rfl

end Service.IsPartOf

theorem Service.AnswersLike.run {first : Service σ} {second : Service τ} {related : σ → τ → Prop}
    (alike : first.AnswersLike second related) {state : σ} {other : τ}
    (start : related state other) (plan : Plan) (root output : FilePath) (tree : FileTree) :
    ∃ result after final last,
      plan.run first root output tree state = (result, after, final) ∧
      plan.run second root output tree other = (result, after, last) ∧ related final last :=
  let both := plan.run alike.joint root output tree ⟨(state, other), start⟩
  ⟨both.1, both.2.1, both.2.2.val.1, both.2.2.val.2,
    alike.left.run plan output root tree ⟨(state, other), start⟩,
    alike.right.run plan output root tree ⟨(state, other), start⟩, both.2.2.property⟩

structure Document where
  module : SourceModule
  page : Page
  introduction : Answer
  docstrings : List Answer

def Document.answers (document : Document) : List Answer :=
  document.introduction :: document.docstrings

def SourceModule.prompts (settings : OutputSettings) (base : List Component)
    (module : SourceModule) : List String :=
  Prompt.readme module.found.symbols (module.name base) ::
    if settings.docstrings then (Symbol.withMethods module.found.symbols).map Prompt.docstring
    else []

structure Document.IsMade (settings : OutputSettings) (base : List Component)
    (document : Document) : Prop where
  named : document.page.module = document.module.name base
  path : document.page.path = shownFrom base document.module.path
  quotes : document.page.Quotes settings document.module.found.symbols document.introduction
    document.docstrings

namespace Document

variable {settings : OutputSettings} {base : List Component}

theorem IsMade.prompts {document : Document} (made : document.IsMade settings base) :
    document.answers.map Answer.prompt = document.module.prompts settings base := by
  rw [answers, List.map_cons, made.quotes.asked, made.quotes.prompts, made.named]
  rfl

theorem prompts_of_made {documents : List Document}
    (made : ∀ document ∈ documents, document.IsMade settings base) :
    (documents.flatMap answers).map Answer.prompt =
      documents.flatMap fun document => document.module.prompts settings base := by
  induction documents with
  | nil => rfl
  | cons document rest ih =>
    rw [List.flatMap_cons, List.map_append, List.flatMap_cons,
      (made document List.mem_cons_self).prompts,
      ih fun other member => made other (List.mem_cons_of_mem _ member)]

end Document

theorem Service.IsPartOf.pages {service : Service σ} {other : Service τ} {forget : τ → σ}
    (part : service.IsPartOf other forget) (plan : Plan) (base : List Component)
    (modules : List SourceModule) (state : τ) :
    plan.pages service base modules (forget state) =
      ((plan.pages other base modules state).1, forget (plan.pages other base modules state).2) := by
  induction modules generalizing state with
  | nil => rfl
  | cons module rest ih =>
    simp only [Plan.pages, Plan.page]
    rw [part.page, ih]

/-- The pages of some modules with the answers that they are made from. -/
theorem Plan.pages_logged (plan : Plan) (service : Service σ) (base : List Component)
    {modules : List SourceModule}
    (flat : ∀ module ∈ modules, Symbol.AreFlat module.found.symbols)
    (state : σ) (log : List Answer) :
    ∃ documents : List Document, documents.map Document.module = modules ∧
      (plan.pages service.logged base modules (state, log)).1 = documents.map Document.page ∧
      (plan.pages service.logged base modules (state, log)).2.2 =
        log ++ documents.flatMap Document.answers ∧
      ∀ document ∈ documents, document.IsMade plan.settings.output base := by
  induction modules generalizing state log with
  | nil => exact ⟨[], rfl, rfl, (List.append_nil _).symm, by intro document given; cases given⟩
  | cons module rest ih =>
    obtain ⟨introduction, docstrings, kept, quotes⟩ :=
      service.page_quotes plan.settings.output (module.name base) (shownFrom base module.path)
        (flat module List.mem_cons_self) state log
    let first := plan.page service.logged base module (state, log)
    obtain ⟨documents, listed, pages, answers, made⟩ :=
      ih (fun other member => flat other (List.mem_cons_of_mem _ member)) first.2.2.1
        (log ++ introduction :: docstrings)
    have state_eq : first.2.2 = (first.2.2.1, log ++ introduction :: docstrings) :=
      Prod.ext rfl kept
    rw [← state_eq] at pages answers
    refine ⟨⟨module, first.1, introduction, docstrings⟩ :: documents, congrArg _ listed,
      congrArg _ pages, ?_, ?_⟩
    · rw [List.flatMap_cons, ← List.append_assoc]
      exact answers
    · intro document member
      rcases List.mem_cons.mp member with rfl | other
      · exact ⟨rfl, rfl, quotes⟩
      · exact made document other

namespace Plan

variable {plan : Plan} {service : Service σ} {root output : FilePath} {tree after : FileTree}
variable {state final : σ} {report : Report}

theorem run_with_log {result : Except Failure Report}
    (ran : plan.run service root output tree state = (result, after, final)) :
    ∃ log, plan.run service.logged root output tree (state, []) = (result, after, final, log) := by
  have same := service.isPartOf_logged.run plan output root tree (state, [])
  rw [ran] at same
  cases logged : plan.run service.logged root output tree (state, []) with
  | mk result rest =>
    obtain ⟨written, last, log⟩ := rest
    rw [logged] at same
    cases same
    exact ⟨log, rfl⟩

end Plan

end PythonDocs
