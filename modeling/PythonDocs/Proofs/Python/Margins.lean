import Mathlib.Data.List.DropRight
import PythonDocs.Proofs.Python.Definitions
import PythonDocs.Proofs.Python.Functions
import PythonDocs.Proofs.Python.RecordedText

namespace PythonDocs

namespace Text

/-- The columns that the reader counts for the blanks and tabs at the start of a line. -/
def depth (line : List Char) : Nat :=
  (line.takeWhile isIndentation).foldr (fun c total => (if c = '\t' then 8 else 1) + total) 0

variable {change : List Char → List Char}

theorem depth_cons_of_blank {c : Char} (blank : isIndentation c = true) (rest : List Char) :
    depth (c :: rest) = (if c = '\t' then 8 else 1) + depth rest := by
  rw [depth, List.takeWhile_cons_of_pos blank, List.foldr_cons, depth]

theorem depth_cons_of_other {c : Char} (other : isIndentation c = false) (rest : List Char) :
    depth (c :: rest) = 0 := by
  rw [depth, List.takeWhile_cons_of_neg (by simp [other]), List.foldr_nil]

theorem depth_append {lost : List Char} (blank : ∀ c ∈ lost, isIndentation c = true)
    (rest : List Char) : depth (lost ++ rest) = depth lost + depth rest := by
  induction lost with
  | nil => exact (Nat.zero_add _).symm
  | cons c more ih =>
    rw [List.forall_mem_cons] at blank
    rw [List.cons_append, depth_cons_of_blank blank.1, depth_cons_of_blank blank.1, ih blank.2,
      Nat.add_assoc]

theorem mapLater_append_line (before behind : List Char) :
    mapLater change (before ++ '\n' :: behind) =
      mapLater change before ++ '\n' :: joinWith ['\n'] ((splitOn '\n' behind).map change) := by
  obtain ⟨first, later, split⟩ := List.exists_cons_of_ne_nil (splitOn_ne_nil '\n' before)
  have whole : splitOn '\n' (before ++ '\n' :: behind) =
      first :: (later ++ splitOn '\n' behind) := by
    rw [splitOn_append, split, List.cons_append]
  have some : (splitOn '\n' behind).map change ≠ [] := by
    rw [ne_eq, List.map_eq_nil_iff]
    exact splitOn_ne_nil '\n' behind
  rw [mapLater_eq_joinWith split, mapLater_eq_joinWith whole, List.map_append, ← List.cons_append,
    joinWith_append _ (List.cons_ne_nil _ _) some]
  simp

theorem isPrefix_dedent {c : Char} (solid : isBlank c = false) (width : Nat)
    (front behind : List Char) :
    dedent width (front ++ [c]) <+: dedent width (front ++ c :: behind) := by
  rw [dedent_append_solid solid List.not_mem_nil]
  by_cases member : '\n' ∈ behind
  · obtain ⟨word, rest, rfl, whole⟩ := List.eq_append_cons_of_mem member
    rw [← List.cons_append, ← List.append_assoc, dedent_eq_mapLater, mapLater_append_line,
      ← dedent_eq_mapLater, dedent_append_solid solid whole]
    exact ⟨word ++ '\n' :: joinWith ['\n'] ((splitOn '\n' rest).map (dropIndentation width)),
      by simp⟩
  · rw [dedent_append_solid solid member]
    exact ⟨behind, by simp⟩

theorem trimEnd_append_of_solid {text : List Char} (solid : trimEnd text ≠ [])
    (before : List Char) : trimEnd (before ++ text) = before ++ trimEnd text := by
  have some : (text.reverse.dropWhile isBlank).isEmpty = false := by
    simpa [trimEnd, dropEnd] using solid
  simp only [trimEnd, dropEnd, List.reverse_append, List.dropWhile_append, some]
  simp

theorem isPrefix_trimEnd (text behind : List Char) : trimEnd text <+: trimEnd (text ++ behind) := by
  by_cases none : trimEnd behind = []
  · have blank : ∀ c ∈ behind.reverse, isBlank c = true := by
      simpa using List.rdropWhile_eq_nil_iff.mp none
    rw [trimEnd, trimEnd, dropEnd, dropEnd, List.reverse_append, List.dropWhile_append_of_pos blank]
  · rw [trimEnd_append_of_solid none]
    exact (List.rdropWhile_prefix isBlank text).trans (List.prefix_append _ _)

theorem dedent_append_line {indentation margin : List Char}
    (blank : ∀ c ∈ indentation, isIndentation c = true)
    (blanks : ∀ c ∈ margin, isIndentation c = true) (before text : List Char) :
    dedent indentation.length (before ++ '\n' :: (indentation ++ margin ++ text)) =
      dedent indentation.length before ++ '\n' :: (margin ++ dedent indentation.length text) := by
  obtain ⟨first, later, split⟩ := List.exists_cons_of_ne_nil (splitOn_ne_nil '\n' text)
  have whole : '\n' ∉ indentation ++ margin := by
    intro member
    rcases List.mem_append.mp member with member | member
    · exact absurd (blank _ member) (by decide)
    · exact absurd (blanks _ member) (by decide)
  rw [dedent_eq_mapLater, mapLater_append_line, splitOn_whole_append whole split, List.map_cons,
    List.append_assoc, dropIndentation_indented blank, joinWith_append_cons,
    ← mapLater_eq_joinWith split]

/-- What is between a character that is no blank and a place on a later line, where only blanks and
tabs stand before the place on its line. -/
theorem StandsBehind.slice_eq {text indentation : List Char} {start place : Nat}
    (stands : StandsBehind text place [] indentation) (before : start < place)
    (solid : IsSolidAt text start) :
    ∃ front, slice text start place = front ++ '\n' :: indentation := by
  obtain ⟨c, given, solid⟩ := solid
  obtain ⟨lines, split, ends⟩ := stands.split
  rw [List.nil_append] at split
  have here : (lines ++ indentation)[start]? = some c := by
    rw [← split, List.getElem?_take_of_lt before, given]
  have within : start < lines.length := by
    refine Nat.lt_of_not_le fun beyond => ?_
    rw [List.getElem?_append_right beyond] at here
    have blank := stands.blank c (List.mem_of_getElem? here)
    rw [isIndentation_of_not_blank solid] at blank
    cases blank
  rcases List.eq_nil_or_concat lines with rfl | ⟨front, last, rfl⟩
  · cases within
  · rw [List.concat_eq_append] at split ends within
    obtain rfl := ends last (by simp)
    rw [List.length_append, List.length_singleton] at within
    refine ⟨front.drop start, ?_⟩
    rw [slice, ← List.drop_take, split, List.append_assoc,
      List.drop_append_of_le_length (Nat.le_of_lt_succ within)]
    rfl

theorem trimEnd_slice_ne_nil {text : List Char} {start stop : Nat} (solid : IsSolidAt text start)
    (before : start < stop) : trimEnd (slice text start stop) ≠ [] := by
  obtain ⟨c, given, clear⟩ := solid
  have member : c ∈ slice text start stop := by
    obtain ⟨within, rfl⟩ := List.getElem?_eq_some_iff.mp given
    obtain ⟨length, longer⟩ := Nat.exists_eq_add_of_lt before
    have size : stop - start = length + 1 := by omega
    rw [slice, List.drop_eq_getElem_cons within, size, List.take_succ_cons]
    exact List.mem_cons_self
  intro none
  have blank := List.rdropWhile_eq_nil_iff.mp none c member
  rw [clear] at blank
  cases blank

end Text

namespace Python

open Text

section

variable {source own more : List Char} {start stop first last : Nat}
  (outer : StandsBehind source start [] own) (inner : StandsBehind source first [] (own ++ more))
  (begins : start < first) (inside : first < last) (ends : last ≤ stop)
  (solid : IsSolidAt source start) (also : IsSolidAt source first)

include outer inner begins inside ends solid also

theorem exists_definitionText_nested :
    ∃ front behind, definitionText source start stop = (front ++ '\n' :: more) ++
      (dedent own.length (trimEnd (slice source first last)) ++ behind) := by
  have column : columnAt source start = own.length := by
    rw [outer.columnAt_eq, byteLength_nil, Nat.zero_add]
  have blanks : ∀ c ∈ more, isIndentation c = true := fun c member =>
    inner.blank c (List.mem_append_right _ member)
  obtain ⟨front, lines⟩ := inner.slice_eq begins solid
  have parts : slice source start stop =
      front ++ '\n' :: (own ++ more) ++ (slice source first last ++ slice source last stop) := by
    rw [slice_append_slice inside.le ends, ← lines,
      slice_append_slice begins.le (inside.le.trans ends)]
  -- the inner definition ends behind a character that no line loses
  obtain ⟨body, c, ending, clear⟩ := exists_concat_of_trimEnd (trimEnd_slice_ne_nil also inside)
  obtain ⟨rest, trimmed⟩ := isPrefix_trimEnd (slice source first last) (slice source last stop)
  rw [ending, List.append_assoc, List.singleton_append] at trimmed
  have nonempty : trimEnd (slice source first last ++ slice source last stop) ≠ [] := by
    simp [← trimmed]
  obtain ⟨behind, dedented⟩ := isPrefix_dedent clear own.length body rest
  rw [← ending, trimmed] at dedented
  refine ⟨dedent own.length front, behind, ?_⟩
  rw [definitionText_eq_dedent, column, parts, trimEnd_append_of_solid nonempty,
    List.append_assoc, List.cons_append, dedent_append_line outer.blank blanks, dedented,
    List.append_assoc, List.cons_append]

/-- The text of a definition in another one is also found in the text of that one. -/
theorem definitionText_nested :
    ∃ place final, StandsBehind (definitionText source start stop) place [] more ∧
      definitionText (definitionText source start stop) place final =
        definitionText source first last := by
  have deeper : columnAt source first = own.length + more.length := by
    rw [inner.columnAt_eq, byteLength_nil, Nat.zero_add, List.length_append]
  obtain ⟨front, behind, text⟩ :=
    exists_definitionText_nested outer inner begins inside ends solid also
  have stands : StandsBehind (definitionText source start stop)
      (front ++ '\n' :: more).length [] more := by
    refine ⟨⟨front ++ ['\n'], ?_, by simp⟩, List.not_mem_nil, fun c member => ?_, nofun⟩
    · rw [text, List.take_left]
      simp
    · exact inner.blank c (List.mem_append_right _ member)
  refine ⟨_, (front ++ '\n' :: more).length +
    (dedent own.length (trimEnd (slice source first last))).length, stands, ?_⟩
  rw [definitionText_eq_dedent, stands.columnAt_eq, byteLength_nil, Nat.zero_add, text, slice,
    List.drop_left, Nat.add_sub_cancel_left, List.take_left, trimEnd_dedent, dedent_dedent,
    definitionText_eq_dedent, deeper]

end

theorem trimEnd_definitionText (source : List Char) (start stop : Nat) :
    trimEnd (definitionText source start stop) = definitionText source start stop := by
  rw [definitionText_eq_dedent, trimEnd_dedent]

/-- The text of a definition at the start of a text is a prefix of the text. -/
theorem definitionText_first {text : List Char} (trimmed : trimEnd text = text) (stop : Nat) :
    definitionText text 0 stop <+: text ∧
      (definitionText text 0 stop = text ↔ text.length ≤ stop) := by
  have verbatim : definitionText text 0 stop = trimEnd (text.take stop) := by
    have column : columnAt text 0 = 0 := by simp [columnAt]
    rw [definitionText_eq_dedent, column, dedent_zero, slice, List.drop_zero, Nat.sub_zero]
  have starts : trimEnd (text.take stop) <+: text.take stop := List.rdropWhile_prefix isBlank _
  rw [verbatim]
  refine ⟨starts.trans (List.take_prefix stop text), fun same => ?_, fun whole => ?_⟩
  · have short := starts.length_le
    rw [same, List.length_take] at short
    exact short.trans (Nat.min_le_left stop text.length)
  · rw [List.take_of_length_le whole, trimmed]

/-- The reader counts the depth of a line, and reads on behind its blanks and tabs. -/
theorem Gap.skip_depth (marks : Bool) (gap : Gap) (line : List Char) :
    Gap.skip marks gap false line = Gap.skip marks
      { gap with indentation := gap.indentation + depth line } false
      (line.dropWhile isIndentation) := by
  induction line generalizing gap with
  | nil => simp [depth]
  | cons c rest ih =>
    cases blank : isIndentation c with
    | true =>
      rw [List.dropWhile_cons_of_pos blank, depth_cons_of_blank blank, ← Nat.add_assoc]
      have both : c = ' ' ∨ c = '\t' := by simpa [isIndentation] using blank
      rcases both with rfl | rfl <;> exact ih _
    | false =>
      rw [List.dropWhile_cons_of_neg (by simp [blank]), depth_cons_of_other blank, Nat.add_zero]

end Python

open Python Text

/-- A line loses blanks and tabs at its start, as many as there are bytes before the definition on
its line. It stands as deep as before, measured from the definition, if and only if they are as deep
as the indentation of the definition. -/
structure LosesDepth (margin indentation line rest : List Char) : Prop where
  split : ∃ lost, line = lost ++ rest ∧
    lost.length = lostAt (byteLength margin + indentation.length) line ∧
    depth line = depth lost + depth rest ∧
    (depth line = depth indentation + depth rest ↔ depth lost = depth indentation) ∧
    (margin = [] → indentation <+: line → lost = indentation)

/-- A text has the lines of a definition, where each later line loses depth. It also has the texts
of the definitions in that one: a definition behind the same indentation and some more is found in
the text behind the rest of its indentation, and its text there is its text in the source. If the
text is read and starts with a definition, then it starts with the text of that definition, and it
is that text if and only if the definition takes all of it. -/
structure KeepsMargins (source : List Char) (definition : Tree) (text : String) : Prop where
  covers : definition.Covers source
  lines : ∃ margin indentation first later shorter,
    StandsBehind source definition.start margin indentation ∧
    splitOn '\n' (trimEnd (slice source definition.start definition.stop)) = first :: later ∧
    splitOn '\n' text.toList = first :: shorter ∧
    List.Forall₂ (LosesDepth margin indentation) later shorter
  nested : ∀ inner ∈ Tree.entriesOf definition.children, inner.isDefinition = true →
    ∀ own more, StandsBehind source definition.start [] own →
      StandsBehind source inner.start [] (own ++ more) →
      ∃ place final, StandsBehind text.toList place [] more ∧
        definitionText text.toList place final = (inner.definitionSource source).toList
  reread : ∀ trees, parse text.toList = .ok trees → ∀ first ∈ Tree.definitionsOf trees,
    first.start = 0 → (first.definitionSource text.toList).toList <+: text.toList ∧
      (first.definitionSource text.toList = text ↔ text.toList.length ≤ first.stop)

theorem losesDepth_dropIndentation {margin indentation : List Char}
    (blank : ∀ c ∈ indentation, isIndentation c = true) (line : List Char) :
    LosesDepth margin indentation line
      (dropIndentation (byteLength margin + indentation.length) line) := by
  rw [dropIndentation_eq_drop]
  generalize width : byteLength margin + indentation.length = column
  have split := (List.take_append_drop (lostAt column line) line).symm
  have counted := depth_append (isIndentation_of_mem_take column line)
    (line.drop (lostAt column line))
  rw [← split] at counted
  refine ⟨_, split, width ▸ length_take_lostAt column line, counted, by omega, ?_⟩
  rintro rfl ⟨more, rfl⟩
  have long : indentation.length ≤ ((indentation ++ more).takeWhile isIndentation).length := by
    rw [List.takeWhile_append_of_pos blank]
    simp
  rw [lostAt, ← width, byteLength_nil, Nat.zero_add, Nat.min_eq_left long, List.take_left]

theorem keepsMargins {source : List Char} {definition : Tree} (made : definition.IsWellMade)
    (isDefinition : definition.isDefinition = true) (covers : definition.Covers source) :
    KeepsMargins source definition (definition.definitionSource source) := by
  rcases definition with _ | ⟨kind, start, stop, children⟩
  · cases isDefinition
  have isEntry : kind.isEntry = true := Bool.or_eq_true_iff.mpr (.inr isDefinition)
  obtain ⟨_, _, _, -, -, -, -, solid⟩ := Tree.opened_of_entry made isEntry covers
  have text : ((Python.Tree.node kind start stop children).definitionSource source).toList =
      definitionText source start stop := String.toList_ofList
  refine ⟨covers, ?_, fun inner member isInner own more outer behind => ?_,
    fun trees _ again _ starts => ?_⟩
  · obtain ⟨margin, indentation, stands⟩ := exists_standsBehind source start
    obtain ⟨first, later, split⟩ :=
      List.exists_cons_of_ne_nil (splitOn_ne_nil '\n' (trimEnd (slice source start stop)))
    refine ⟨margin, indentation, first, later,
      later.map (dropIndentation (byteLength margin + indentation.length)), stands, split, ?_, ?_⟩
    · rw [text, definitionText_eq_dedent, stands.columnAt_eq, dedent_eq_mapLater]
      exact splitOn_mapLater (keepsLine_dropIndentation _) split
    · rw [List.forall₂_map_right_iff, List.forall₂_same]
      exact fun line _ => losesDepth_dropIndentation stands.blank line
  · obtain ⟨begins, ends⟩ := (Tree.encloses_of_entry made isEntry covers).2 inner member
    obtain ⟨below, kind, first, last, inside, rfl, entry⟩ :=
      Tree.mem_entriesOf children inner member
    have innerMade := Tree.isWellMade_of_subtreeOf children made.2.2.2 _ below
    have innerCovers := Tree.covers_of_subtree made.2.2.2 covers below
    obtain ⟨_, _, _, -, -, -, -, also⟩ := Tree.opened_of_entry innerMade entry innerCovers
    have wide := (Tree.encloses_of_entry innerMade entry innerCovers).1
    rw [text, Tree.definitionSource, String.toList_ofList]
    exact definitionText_nested outer behind begins wide ends solid also
  · have trimmed := trimEnd_definitionText source start stop
    rw [← text] at trimmed
    rw [← String.toList_inj, Tree.definitionSource, String.toList_ofList, starts]
    exact definitionText_first trimmed again.stop

/-- Every recorded text of an accepted source is that of a class or a function of the source and
keeps its lines, each with the depth that the reader counts for it less that of the blanks and tabs
it loses. -/
theorem Outline.margins_of_read {source : String} {outline : Outline} (nested : NestedFunctions)
    (read : Outline.read source = .ok outline) :
    ∃ trees found, parse source.toList = .ok trees ∧ outline.symbols nested = .ok found ∧
      (∀ symbol ∈ Symbol.withMethods found.symbols, symbol.source ∈ outline.texts) ∧
      List.Forall₂ (KeepsMargins source.toList) (Tree.definitionsOf trees) outline.texts ∧
      ∀ marks gap line, Gap.skip marks gap false line = Gap.skip marks
        { gap with indentation := gap.indentation + depth line } false
        (line.dropWhile isIndentation) := by
  obtain ⟨trees, parsed, lowers⟩ := lowers_of_read read
  obtain ⟨-, made, final, tile⟩ := trees_of_parse parsed
  obtain ⟨found, walked, -⟩ := symbols_walked nested lowers.named
  refine ⟨trees, found, parsed, walked, source_mem_texts walked, ?_, Gap.skip_depth⟩
  rw [lowers.texts, List.forall₂_map_right_iff, List.forall₂_same]
  intro definition member
  obtain ⟨inside, isDefinition⟩ := Tree.mem_definitionsOf trees definition member
  exact keepsMargins (Tree.isWellMade_of_subtreeOf trees made definition inside) isDefinition
    (Tree.covers_of_subtree made tile inside)

def tabbedClass : String := "class A:\n    def f(self):\n\treturn 1\n"

theorem texts_tabbedClass : ∃ outline, Outline.read tabbedClass = .ok outline ∧
    outline.texts = ["class A:\n    def f(self):\n\treturn 1", "def f(self):\nreturn 1"] :=
  exists_of_toOption (by decide +kernel)

theorem Outline.margins_of_tabbedClass :
    ∃ outline trees, Outline.read tabbedClass = .ok outline ∧
      parse tabbedClass.toList = .ok trees ∧
      ∃ definition ∈ Tree.definitionsOf trees,
        KeepsMargins tabbedClass.toList definition "def f(self):\nreturn 1" := by
  obtain ⟨outline, read, texts⟩ := texts_tabbedClass
  obtain ⟨trees, found, parsed, -, -, keeps, -⟩ := Outline.margins_of_read .flatten read
  obtain ⟨definition, member, kept⟩ := exists_of_forall₂ keeps.flip "def f(self):\nreturn 1"
    (by simp [texts])
  exact ⟨outline, trees, read, parsed, definition, member, kept⟩

/-- The texts that are recorded for a source. -/
def sourcesOf? (source : String) : Option (List String) :=
  (Outline.read source).toOption.bind fun outline =>
    (outline.symbols .flatten).toOption.map fun found =>
      (Symbol.withMethods found.symbols).map Symbol.source

theorem exists_of_sourcesOf? {source : String} {texts : List String}
    (given : sourcesOf? source = some texts) :
    ∃ outline found, Outline.read source = .ok outline ∧ outline.symbols .flatten = .ok found ∧
      (Symbol.withMethods found.symbols).map Symbol.source = texts := by
  obtain ⟨outline, read, rest⟩ := Option.bind_eq_some_iff.mp given
  obtain ⟨found, walked, same⟩ := exists_of_toOption rest
  refine ⟨outline, found, ?_, walked, same⟩
  cases result : Outline.read source with
  | error => rw [result] at read; cases read
  | ok other => rw [result] at read; exact congrArg Except.ok (Option.some.inj read)

/-- A method is recorded with a text that is read as another function. -/
theorem Outline.method_read_apart :
    ∃ outline found again refound, ∃ method ∈ Symbol.withMethods found.symbols,
      Outline.read tabbedClass = .ok outline ∧ outline.symbols .flatten = .ok found ∧
      Outline.read method.source = .ok again ∧ again.symbols .flatten = .ok refound ∧
      ∀ symbol ∈ Symbol.withMethods refound.symbols, symbol.source ≠ method.source := by
  have recorded : sourcesOf? tabbedClass =
      some ["class A:\n    def f(self):\n\treturn 1", "def f(self):\nreturn 1"] := by
    decide +kernel
  have reread : sourcesOf? "def f(self):\nreturn 1" = some ["def f(self):"] := by decide +kernel
  obtain ⟨outline, found, read, walked, texts⟩ := exists_of_sourcesOf? recorded
  obtain ⟨again, refound, readAgain, walkedAgain, others⟩ := exists_of_sourcesOf? reread
  obtain ⟨method, member, same⟩ : ∃ method ∈ Symbol.withMethods found.symbols,
      method.source = "def f(self):\nreturn 1" := by
    refine List.mem_map.mp ?_
    rw [texts]
    decide
  refine ⟨outline, found, again, refound, method, member, read, walked, same ▸ readAgain,
    walkedAgain, fun symbol given equal => ?_⟩
  have among := List.mem_map_of_mem (f := Symbol.source) given
  rw [others, equal, same] at among
  exact absurd among (by decide)

end PythonDocs
