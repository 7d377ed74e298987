import Mathlib.Logic.Relation
import PythonDocs.Proofs.Python.Tokens
import PythonDocs.Python.Parse

namespace PythonDocs.Python

/-- One way to go on with a rule: the rules that are to be followed in its place. -/
inductive Rule.Unfolds : Rule → List Rule → Prop
  | empty : Unfolds .empty []
  | part (category : Category) : Unfolds (.part category) [Grammar.rule category]
  | both (first second : Rule) : Unfolds (.both first second) [first, second]
  | left (first second : Rule) : Unfolds (.either first second) [first]
  | right (first second : Rule) : Unfolds (.either first second) [second]
  | more (rule : Rule) : Unfolds (.many rule) [rule, .many rule]
  | done (rule : Rule) : Unfolds (.many rule) []
  | require (shape : Shape) : Unfolds (.require shape) []

namespace Rule

variable {rule : Rule} {rules first second : List Rule} {trees : List Tree}

theorem deriveAll_append : DeriveAll (first ++ second) trees ↔
    ∃ before behind, trees = before ++ behind ∧ DeriveAll first before ∧
      DeriveAll second behind := by
  induction first generalizing trees with
  | nil => simp [DeriveAll]
  | cons rule rest ih =>
    simp only [List.cons_append, DeriveAll, ih]
    constructor
    · rintro ⟨once, -, rfl, derives, more, behind, rfl, inner, outer⟩
      exact ⟨once ++ more, behind, by simp, ⟨once, more, rfl, derives, inner⟩, outer⟩
    · rintro ⟨-, behind, rfl, ⟨once, more, rfl, derives, inner⟩, outer⟩
      exact ⟨once, more ++ behind, by simp, derives, more, behind, rfl, inner, outer⟩

theorem Unfolds.derives (unfolds : rule.Unfolds rules) (all : DeriveAll rules trees) :
    rule.Derives trees := by
  cases unfolds with
  | empty | part | both => simpa [DeriveAll] using all
  | left => exact .left (by simpa [DeriveAll] using all)
  | right => exact .right (by simpa [DeriveAll] using all)
  | more rule =>
    obtain ⟨once, -, rfl, derives, rest, -, rfl, again, rfl⟩ := all
    rw [List.append_nil]
    exact .more derives again
  | done rule => exact all ▸ .done rule
  | require shape => exact all ▸ .require shape

theorem Unfolds.nodes_subset (unfolds : rule.Unfolds rules) (known : rule.nodes ⊆ Grammar.nodes)
    {next : Rule} (member : next ∈ rules) : next.nodes ⊆ Grammar.nodes := by
  cases unfolds with
  | empty | done | require => cases member
  | part category =>
    rw [List.mem_singleton.mp member]
    intro node inside
    exact List.mem_flatMap.mpr ⟨category, Category.mem_all category, inside⟩
  | both | left | right | more =>
    simp only [Rule.nodes, List.append_subset] at known
    simp only [List.mem_cons, List.not_mem_nil, or_false] at member
    rcases member with rfl | rfl <;> first | exact known | exact known.1 | exact known.2

end Rule

theorem partsOf_append (first second : List Tree) :
    partsOf (first ++ second) = partsOf first ++ partsOf second := List.filter_append ..

theorem partsOf_reverse {trees : List Tree} (trivia : trees.all Tree.isTrivia = true) :
    partsOf trees.reverse = [] := by
  simpa [partsOf] using trivia

namespace Frame

def trees (frame : Frame) : List Tree := frame.children.reverse

def parts (frame : Frame) : List Tree := partsOf frame.trees

def push (frame : Frame) (tree : Tree) : Frame := { frame with children := tree :: frame.children }

def IsOpened (frame : Frame) : Prop := frame.children.getLast?.map Tree.isTrivia ≠ some true

variable {frame : Frame} {tree : Tree}

@[simp] theorem parts_nil (kind : Kind) : (⟨kind, []⟩ : Frame).parts = [] := rfl

theorem parts_push (solid : tree.isTrivia = false) :
    (frame.push tree).parts = frame.parts ++ [tree] := by
  simp [parts, trees, push, partsOf, solid]

theorem IsOpened.push (opened : frame.IsOpened) (solid : tree.isTrivia = false) :
    (frame.push tree).IsOpened := by
  unfold IsOpened Frame.push at *
  rw [List.getLast?_cons]
  cases last : frame.children.getLast? with
  | none => simp [solid]
  | some first => simpa [last] using opened

end Frame

namespace Thread

/-- What a thread can do without reading. -/
inductive Step : Thread → Thread → Prop
  | close {thread next : Thread} {todo : List Task} (task : thread.todo = .close :: todo)
      (closed : thread.close todo = some next) : Step thread next
  | unfold {thread : Thread} {rule : Rule} {rules : List Rule} {todo : List Task}
      (task : thread.todo = .follow rule :: todo) (unfolds : rule.Unfolds rules) :
      Step thread { thread with todo := rules.map .follow ++ todo }
  | enter {thread : Thread} {kind : Kind} {rule : Rule} {todo : List Task}
      (task : thread.todo = .follow (.tree kind rule) :: todo) :
      Step thread ⟨.follow rule :: .close :: todo, ⟨kind, []⟩, thread.frame :: thread.outer⟩

theorem steps_of_mem_expand {fuel : Nat} {thread next : Thread}
    (member : next ∈ thread.expand fuel) : Relation.ReflTransGen Step thread next := by
  induction fuel generalizing thread with
  | zero => cases member
  | succ fuel ih =>
    unfold expand at member
    split at member
    · rw [List.mem_singleton.mp member]
    · rename_i todo task
      split at member
      · rename_i closed
        exact .head (.close task closed) (ih member)
      · cases member
    · rename_i rule todo task
      have go {rules : List Rule} (unfolds : rule.Unfolds rules)
          (inside : next ∈ expand fuel { thread with todo := rules.map .follow ++ todo }) :
          Relation.ReflTransGen Step thread next := .head (.unfold task unfolds) (ih inside)
      split at member
      · rw [List.mem_singleton.mp member]
      · exact go .empty member
      · exact go (.part _) member
      · exact go (.both _ _) member
      · rcases List.mem_append.mp member with member | member
        · exact go (.left _ _) member
        · exact go (.right _ _) member
      · rcases List.mem_append.mp member with member | member
        · exact go (.more _) member
        · exact go (.done _) member
      · exact .head (.enter task) (ih member)
      · split at member
        · exact go (.require _) member
        · cases member

def trees (thread : Thread) : List Tree :=
  (thread.frame :: thread.outer).reverse.flatMap Frame.trees

def tokens (thread : Thread) : List Token := Tree.tokensOf thread.trees

variable {thread next : Thread}

theorem trees_eq : thread.trees = thread.outer.reverse.flatMap Frame.trees ++ thread.frame.trees := by
  simp [trees]

theorem tokens_push (tree : Tree) : (thread.push tree).tokens = thread.tokens ++ tree.tokens := by
  simp [tokens, trees_eq, push, Frame.trees, Tree.tokensOf_append, Tree.tokensOf]

theorem close_eq {todo : List Task} (closed : thread.close todo = some next) :
    ∃ around outer trailing body, thread.outer = around :: outer ∧
      thread.frame.children = trailing ++ body ∧ trailing.all Tree.isTrivia = true ∧
      body.head?.map Tree.isTrivia ≠ some true ∧
      next = ⟨todo, { around with
        children := trailing ++ .ofChildren thread.frame.kind 0 body.reverse :: around.children },
        outer⟩ := by
  unfold close at closed
  split at closed
  · cases closed
  · rename_i around outer given
    cases closed
    refine ⟨around, outer, _, _, given, List.takeWhile_append_dropWhile.symm, ?_, ?_, rfl⟩
    · exact List.all_eq_true.mpr fun tree member => List.mem_takeWhile_imp member
    · have start := List.head?_dropWhile_not Tree.isTrivia thread.frame.children
      cases head : (thread.frame.children.dropWhile Tree.isTrivia).head? with
      | none => simp
      | some tree =>
        rw [head] at start
        simpa using start

theorem Step.tokens_eq (step : Step thread next) : next.tokens = thread.tokens := by
  cases step with
  | close task closed =>
    obtain ⟨around, outer, trailing, body, outside, inside, -, -, rfl⟩ := close_eq closed
    simp [tokens, trees_eq, outside, Frame.trees, inside, Tree.tokensOf_append, Tree.tokensOf,
      Tree.ofChildren, Tree.tokens]
  | unfold => rfl
  | enter => simp [tokens, trees_eq, Frame.trees]

/-- What is read of the open nodes, together with what the tasks allow, completes the rule `top`:
each list of trees that the rules before the next `close` allow completes the innermost node, and
that node is one that the nodes around it can go on with. -/
def Completes (top : Rule) : List Task → Frame → List Frame → Prop
  | todo, frame, [] =>
    ∃ rules, todo = rules.map Task.follow ∧
      ∀ more, Rule.DeriveAll rules more → top.Derives (frame.parts ++ more)
  | todo, frame, around :: outer =>
    ∃ rules rest rule, todo = rules.map Task.follow ++ .close :: rest ∧
      (frame.kind, rule) ∈ Grammar.nodes ∧ frame.IsOpened ∧
      (∀ more, Rule.DeriveAll rules more → rule.Derives (frame.parts ++ more)) ∧
      ∀ node, Rule.Derives (.tree frame.kind rule) [node] →
        Completes top rest (around.push node) outer

variable {top rule : Rule} {rules : List Rule} {todo : List Task} {frame other : Frame}
  {outer : List Frame}

theorem Completes.congr (completes : Completes top todo frame outer)
    (kind : other.kind = frame.kind) (parts : other.parts = frame.parts)
    (opened : outer = [] ∨ (frame.IsOpened → other.IsOpened)) :
    Completes top todo other outer := by
  cases outer with
  | nil =>
    obtain ⟨rules, tasks, all⟩ := completes
    exact ⟨rules, tasks, parts ▸ all⟩
  | cons around outer =>
    obtain ⟨rules, rest, rule, tasks, node, start, all, closed⟩ := completes
    have opens := opened.resolve_left (List.cons_ne_nil _ _)
    exact ⟨rules, rest, rule, tasks, kind ▸ node, opens start, parts ▸ all, kind ▸ closed⟩

theorem Completes.replace (completes : Completes top (.follow rule :: todo) frame outer)
    (kind : other.kind = frame.kind) (opened : frame.IsOpened → other.IsOpened)
    {read : List Tree} (parts : other.parts = frame.parts ++ read)
    (goes : ∀ more, Rule.DeriveAll rules more → rule.Derives (read ++ more)) :
    Completes top (rules.map .follow ++ todo) other outer := by
  have on (rest : List Rule) (more : List Tree) (all : Rule.DeriveAll (rules ++ rest) more) :
      Rule.DeriveAll (rule :: rest) (read ++ more) := by
    obtain ⟨before, behind, rfl, here, later⟩ := Rule.deriveAll_append.mp all
    exact ⟨read ++ before, behind, by simp, goes before here, later⟩
  cases outer with
  | nil =>
    obtain ⟨own, tasks, all⟩ := completes
    cases own with
    | nil => cases tasks
    | cons first rest =>
      cases tasks
      refine ⟨rules ++ rest, by simp, fun more derives => ?_⟩
      rw [parts, List.append_assoc]
      exact all _ (on rest more derives)
  | cons around outer =>
    obtain ⟨own, behind, whole, tasks, node, start, all, closed⟩ := completes
    cases own with
    | nil => cases tasks
    | cons first rest =>
      cases tasks
      refine ⟨rules ++ rest, behind, whole, by simp, kind ▸ node, opened start,
        fun more derives => ?_, kind ▸ closed⟩
      rw [parts, List.append_assoc]
      exact all _ (on rest more derives)

theorem Completes.push (completes : Completes top (.follow rule :: todo) frame outer)
    {tree : Tree} (derives : rule.Derives [tree]) (solid : tree.isTrivia = false) :
    Completes top todo (frame.push tree) outer := by
  have goes : ∀ more, Rule.DeriveAll [] more → rule.Derives ([tree] ++ more) := by
    rintro more rfl
    rwa [List.append_nil]
  refine completes.replace ?_ ?_ (Frame.parts_push solid) goes
  · rfl
  · exact fun opened => opened.push solid

theorem Completes.derives_node {around : Frame} {trailing body : List Tree}
    (completes : Completes top (.close :: todo) frame (around :: outer))
    (inside : frame.children = trailing ++ body) (trivia : trailing.all Tree.isTrivia = true)
    (ends : body.head?.map Tree.isTrivia ≠ some true) :
    Completes top todo (around.push (.ofChildren frame.kind 0 body.reverse)) outer := by
  obtain ⟨rules, rest, rule, tasks, node, opened, all, closed⟩ := completes
  cases rules with
  | cons => cases tasks
  | nil =>
    cases tasks
    have parts : frame.parts = partsOf body.reverse := by
      rw [Frame.parts, Frame.trees, inside, List.reverse_append, partsOf_append,
        partsOf_reverse trivia, List.append_nil]
    have derives : rule.Derives (partsOf body.reverse) := by
      have := all [] rfl
      rwa [List.append_nil, parts] at this
    -- so that trivia behind the last part are not all of its children
    have some : body ≠ [] := by
      rintro rfl
      exact Rule.Derives.ne_nil_of_node node derives rfl
    refine closed _ (.tree ⟨?_, ?_⟩ derives)
    · have last : frame.children.getLast? = body.getLast? := by
        rw [inside, List.getLast?_append_of_ne_nil _ some]
      rw [Frame.IsOpened, last] at opened
      rw [List.head?_reverse]
      cases final : body.getLast? with
      | none => exact absurd (List.getLast?_eq_none_iff.mp final) some
      | some tree => simpa [final] using opened
    · rw [List.getLast?_reverse]
      cases body with
      | nil => exact absurd rfl some
      | cons tree rest => simpa using ends

structure Sound (thread : Thread) : Prop where
  known : ∀ rule, .follow rule ∈ thread.todo → rule.nodes ⊆ Grammar.nodes
  completes : Completes Grammar.moduleRule thread.todo thread.frame thread.outer

theorem Step.sound (step : Step thread next) (sound : thread.Sound) : next.Sound := by
  obtain ⟨known, completes⟩ := sound
  cases step with
  | close task closed =>
    obtain ⟨around, outer, trailing, body, outside, inside, trivia, ends, rfl⟩ := close_eq closed
    rw [task, outside] at completes
    refine ⟨fun rule member => known rule (task ▸ List.mem_cons_of_mem _ member), ?_⟩
    refine (completes.derives_node inside trivia ends).congr rfl ?_ (.inr ?_)
    · simp only [Frame.parts, Frame.trees, Frame.push, List.reverse_append, partsOf_append,
        partsOf_reverse trivia, List.append_nil]
    · unfold Frame.IsOpened Frame.push
      rw [List.getLast?_append_of_ne_nil _ (List.cons_ne_nil _ _)]
      exact id
  | unfold task unfolds =>
    rw [task] at completes known
    constructor
    · intro next member
      rcases List.mem_append.mp member with member | member
      · obtain ⟨own, inside, same⟩ := List.mem_map.mp member
        cases same
        exact unfolds.nodes_subset (known _ List.mem_cons_self) inside
      · exact known next (List.mem_cons_of_mem _ member)
    · exact completes.replace rfl id (List.append_nil _).symm fun more => unfolds.derives
  | @enter kind rule todo task =>
    rw [task] at completes known
    have inner := known _ List.mem_cons_self
    rw [Rule.nodes, List.cons_subset] at inner
    constructor
    · intro next member
      simp only [List.mem_cons, Task.follow.injEq, reduceCtorEq, false_or] at member
      rcases member with rfl | member
      · exact inner.2
      · exact known next (List.mem_cons_of_mem _ member)
    · -- the nodes around take the new one as a single tree once it is closed
      refine ⟨[rule], todo, rule, rfl, inner.1, by simp [Frame.IsOpened], ?_, ?_⟩
      · rintro - ⟨more, -, rfl, derives, rfl⟩
        simpa using derives
      · intro node derives
        obtain ⟨children, same, -, -⟩ := Rule.Derives.tree_iff.mp derives
        refine completes.push derives ?_
        cases same
        rfl

theorem sound_of_steps (steps : Relation.ReflTransGen Step thread next) (sound : thread.Sound) :
    next.Sound ∧ next.tokens = thread.tokens := by
  induction steps with
  | refl => exact ⟨sound, rfl⟩
  | tail _ step ih => exact ⟨step.sound ih.1, step.tokens_eq.trans ih.2⟩

def IsGrounded (thread : Thread) : Prop := thread.outer = [] ∨ thread.frame.children ≠ []

theorem Sound.take {terminal : Terminal} {start : Nat} {text : List Char} (sound : thread.Sound)
    (solid : terminal.isTrivia = false)
    (taken : thread.take? terminal (.leaf terminal start text) = some next) :
    next.Sound ∧ next.IsGrounded ∧ next.tokens = thread.tokens ++ [⟨terminal, start, text⟩] := by
  obtain ⟨known, completes⟩ := sound
  unfold take? at taken
  split at taken
  · rename_i own todo task
    split at taken
    · rename_i same
      cases taken
      subst same
      rw [task] at known completes
      refine ⟨⟨fun rule member => known rule (List.mem_cons_of_mem _ member), ?_⟩, ?_, ?_⟩
      · exact completes.push (.token own start text) solid
      · exact .inr (List.cons_ne_nil _ _)
      · exact tokens_push _
    · cases taken
  · cases taken

theorem Sound.push_trivia {terminal : Terminal} {start : Nat} {text : List Char}
    (sound : thread.Sound) (grounded : thread.IsGrounded) (trivia : terminal.isTrivia = true) :
    (thread.push (.leaf terminal start text)).Sound ∧
      (thread.push (.leaf terminal start text)).IsGrounded := by
  refine ⟨⟨sound.known, sound.completes.congr rfl ?_ ?_⟩, .inr (List.cons_ne_nil _ _)⟩
  · simp [push, Frame.parts, Frame.trees, partsOf, Tree.isTrivia, trivia]
  · refine grounded.imp id fun some => ?_
    unfold Frame.IsOpened push
    rw [List.getLast?_cons, List.getLast?_eq_getLast_of_ne_nil some]
    exact id

end Thread

end PythonDocs.Python
