import Mathlib.Data.List.Forall2
import PythonDocs.Proofs.Extraction.Listing
import PythonDocs.Run

namespace PythonDocs

def Symbol.AreFlat (symbols : List Symbol) : Prop :=
  ∀ symbol ∈ symbols, ∀ method ∈ symbol.methods, method.methods = []

def Entry.withMethods (entries : List Entry) : List Entry :=
  entries.flatMap fun entry => entry :: entry.methods

structure Entry.Names (symbol : Symbol) (entry : Entry) : Prop where
  name : entry.name = symbol.name
  signature : entry.signature = symbol.signature

structure Entry.Describes (symbol : Symbol) (entry : Entry) : Prop where
  names : Names symbol entry
  methods : List.Forall₂ Names symbol.methods entry.methods

theorem Entry.Describes.withMethods {symbols : List Symbol} {entries : List Entry}
    (describe : List.Forall₂ Describes symbols entries) :
    List.Forall₂ Names (Symbol.withMethods symbols) (Entry.withMethods entries) := by
  induction describe with
  | nil => exact .nil
  | cons first _ ih =>
    exact .cons first.names (List.rel_append first.methods ih)

def Symbol.heading (symbol : Symbol) : String := "\n\n### `" ++ symbol.signature ++ "`"

def Symbol.methodHeading (owner : String) (method : Symbol) : String :=
  "\n\n#### `" ++ owner ++ "." ++ method.name ++ "`\n\n`" ++ method.signature ++ "`"

def Symbol.headings (symbols : List Symbol) : List String :=
  symbols.flatMap fun symbol => symbol.heading :: symbol.methods.map (methodHeading symbol.name)

def Symbol.reference (symbols : List Symbol) (texts : List (Option String)) : String :=
  if symbols.isEmpty then ""
  else
    "\n\n## API Reference" ++
      String.join (List.zipWith (fun heading text => heading ++ Page.fence text)
        (headings symbols) texts)

theorem Page.methodSections_eq (owner : String) {methods : List Symbol} {entries : List Entry}
    (named : List.Forall₂ Entry.Names methods entries) :
    entries.map (methodSection owner) =
      List.zipWith (fun heading text => heading ++ fence text)
        (methods.map (Symbol.methodHeading owner)) (entries.map Entry.docstring) := by
  induction named with
  | nil => rfl
  | @cons method entry _ _ names _ ih =>
    have head : methodSection owner entry = Symbol.methodHeading owner method ++
        fence entry.docstring := by
      unfold methodSection Symbol.methodHeading
      rw [names.name, names.signature]
    rw [List.map_cons, List.map_cons, List.map_cons, List.zipWith_cons_cons, ← ih, head]

theorem Page.entrySections_eq {symbols : List Symbol} {entries : List Entry}
    (described : List.Forall₂ Entry.Describes symbols entries) :
    String.join (entries.map entrySection) =
      String.join (List.zipWith (fun heading text => heading ++ fence text)
        (Symbol.headings symbols) ((Entry.withMethods entries).map Entry.docstring)) := by
  induction described with
  | nil => rfl
  | @cons symbol entry symbols entries first _ ih =>
    have headings : Symbol.headings (symbol :: symbols) =
        symbol.heading :: (symbol.methods.map (Symbol.methodHeading symbol.name) ++
          Symbol.headings symbols) := rfl
    have texts : (Entry.withMethods (entry :: entries)).map Entry.docstring =
        entry.docstring :: (entry.methods.map Entry.docstring ++
          (Entry.withMethods entries).map Entry.docstring) := by
      simp [Entry.withMethods]
    have same : (symbol.methods.map (Symbol.methodHeading symbol.name)).length =
        (entry.methods.map Entry.docstring).length := by
      simpa using first.methods.length_eq
    rw [headings, texts, List.zipWith_cons_cons, List.zipWith_append same,
      ← methodSections_eq symbol.name first.methods, String.join_cons, String.join_append, ← ih,
      List.map_cons, String.join_cons, entrySection, first.names.signature, first.names.name,
      Symbol.heading, String.append_assoc]

theorem Page.reference_eq {symbols : List Symbol} {entries : List Entry}
    (described : List.Forall₂ Entry.Describes symbols entries) :
    reference entries =
      Symbol.reference symbols ((Entry.withMethods entries).map Entry.docstring) := by
  rw [reference, Symbol.reference, entrySections_eq described]
  cases described <;> rfl

theorem Page.render_eq {symbols : List Symbol} {page : Page}
    (described : List.Forall₂ Entry.Describes symbols page.entries) :
    page.render = page.readme ++ "\n" ++ diagramSection page.diagram ++
      Symbol.reference symbols ((Entry.withMethods page.entries).map Entry.docstring) ++
      footer page.path := by
  rw [render, reference_eq described]

section

variable {σ : Type} (write : Symbol → σ → Option String × σ)

def Symbol.texts : List Symbol → σ → List (Option String) × σ
  | [], state => ([], state)
  | symbol :: rest, state =>
    let (text, state) := write symbol state
    let (texts, state) := texts rest state
    (text :: texts, state)

theorem Symbol.texts_append (first second : List Symbol) (state : σ) :
    texts write (first ++ second) state =
      ((texts write first state).1 ++ (texts write second (texts write first state).2).1,
        (texts write second (texts write first state).2).2) := by
  induction first generalizing state with
  | nil => rfl
  | cons symbol rest ih => simp only [List.cons_append, texts, ih]

namespace Entry

theorem build_eq (symbol : Symbol) (state : σ) :
    build write symbol state =
      ({ name := symbol.name
         signature := symbol.signature
         docstring := (write symbol state).1
         methods := (buildAll write symbol.methods (write symbol state).2).1 },
        (buildAll write symbol.methods (write symbol state).2).2) := by
  obtain ⟨kind, name, args, returns, isAsync, source, methods⟩ := symbol
  rw [build]

theorem buildAll_methods {methods : List Symbol} (leaves : ∀ method ∈ methods, method.methods = [])
    (state : σ) :
    (buildAll write methods state).1.map docstring = (Symbol.texts write methods state).1 ∧
      (buildAll write methods state).2 = (Symbol.texts write methods state).2 ∧
      List.Forall₂ Names methods (buildAll write methods state).1 := by
  induction methods generalizing state with
  | nil => exact ⟨rfl, rfl, .nil⟩
  | cons method rest ih =>
    have leaf := leaves method List.mem_cons_self
    obtain ⟨texts, final, named⟩ := ih
      (fun other member => leaves other (List.mem_cons_of_mem _ member)) (write method state).2
    simp only [buildAll, build_eq, leaf, Symbol.texts]
    exact ⟨congrArg _ texts, final, .cons ⟨rfl, rfl⟩ named⟩

theorem buildAll_symbols {symbols : List Symbol} (flat : Symbol.AreFlat symbols) (state : σ) :
    (withMethods (buildAll write symbols state).1).map docstring =
        (Symbol.texts write (Symbol.withMethods symbols) state).1 ∧
      (buildAll write symbols state).2 =
        (Symbol.texts write (Symbol.withMethods symbols) state).2 ∧
      List.Forall₂ Describes symbols (buildAll write symbols state).1 := by
  induction symbols generalizing state with
  | nil => exact ⟨rfl, rfl, .nil⟩
  | cons symbol rest ih =>
    obtain ⟨ownTexts, ownFinal, named⟩ :=
      buildAll_methods write (flat symbol List.mem_cons_self) (write symbol state).2
    obtain ⟨texts, final, described⟩ := ih
      (fun other member => flat other (List.mem_cons_of_mem _ member))
      (Symbol.texts write symbol.methods (write symbol state).2).2
    have behind : Symbol.withMethods (symbol :: rest) =
        symbol :: (symbol.methods ++ Symbol.withMethods rest) := rfl
    simp only [buildAll, build_eq, behind, Symbol.texts, Symbol.texts_append, ownFinal]
    refine ⟨?_, final, .cons ⟨⟨rfl, rfl⟩, named⟩ described⟩
    rw [withMethods, List.flatMap_cons, List.cons_append, List.map_cons, List.map_append, ownTexts]
    exact congrArg (fun texts => _ :: (_ ++ texts)) texts

end Entry

end

section

variable {σ : Type} (service : Service σ)

theorem Service.texts_count (settings : OutputSettings) (symbols : List Symbol) (count : Nat)
    (state : σ) :
    (Symbol.texts (service.countedText settings) symbols (count, state)).2.1 =
      count + symbols.length := by
  induction symbols generalizing count state with
  | nil => rfl
  | cons symbol rest ih =>
    have counted : (service.countedText settings symbol (count, state)).2.1 = count + 1 := by
      simp only [countedText]
      split <;> rfl
    have others := ih (count + 1) (service.countedText settings symbol (count, state)).2.2
    rw [← counted] at others
    rw [Symbol.texts, List.length_cons]
    refine others.trans ?_
    rw [counted]
    omega

end

end PythonDocs
