import PythonDocs.Proofs.Text.Dedent
import PythonDocs.Proofs.Text.Pieces
import PythonDocs.Proofs.Text.Utf8
import PythonDocs.Python.Outline

namespace PythonDocs

namespace Text

def mapLater (change : List Char → List Char) (text : List Char) : List Char :=
  match splitOn '\n' text with
  | [] => []
  | first :: rest => joinWith ['\n'] (first :: rest.map change)

def indent (indentation : List Char) : List Char → List Char := mapLater (indentation ++ ·)

def lostAt (column : Nat) (line : List Char) : Nat :=
  min column (line.takeWhile isIndentation).length

def KeepsLine (change : List Char → List Char) : Prop := ∀ line, '\n' ∉ line → '\n' ∉ change line

variable {change other : List Char → List Char} {text : List Char}

theorem dedent_eq_mapLater (width : Nat) : dedent width = mapLater (dropIndentation width) := rfl

theorem mapLater_eq_joinWith {first : List Char} {later : List (List Char)}
    (split : splitOn '\n' text = first :: later) :
    mapLater change text = joinWith ['\n'] (first :: later.map change) := by
  rw [mapLater, split]

theorem splitOn_mapLater (keeps : KeepsLine change) {first : List Char} {later : List (List Char)}
    (split : splitOn '\n' text = first :: later) :
    splitOn '\n' (mapLater change text) = first :: later.map change := by
  have whole : ∀ line ∈ first :: later, '\n' ∉ line :=
    split ▸ fun _ => not_mem_of_mem_splitOn
  rw [List.forall_mem_cons] at whole
  rw [mapLater_eq_joinWith split]
  refine splitOn_joinWith (List.cons_ne_nil _ _) (List.forall_mem_cons.mpr ⟨whole.1, ?_⟩)
  rw [List.forall_mem_map]
  exact fun line member => keeps line (whole.2 line member)

theorem mapLater_mapLater (keeps : KeepsLine change) (text : List Char) :
    mapLater other (mapLater change text) = mapLater (other ∘ change) text := by
  obtain ⟨first, later, split⟩ := List.exists_cons_of_ne_nil (splitOn_ne_nil '\n' text)
  rw [mapLater_eq_joinWith (splitOn_mapLater keeps split), mapLater_eq_joinWith split, List.map_map]

theorem mapLater_eq_self (same : ∀ line ∈ (splitOn '\n' text).tail, change line = line) :
    mapLater change text = text := by
  obtain ⟨first, later, split⟩ := List.exists_cons_of_ne_nil (splitOn_ne_nil '\n' text)
  rw [split, List.tail_cons] at same
  have all : later.map change = later := by
    rw [List.map_congr_left same, List.map_id']
  rw [mapLater_eq_joinWith split, all, ← split, joinWith_splitOn]

theorem joinWith_concat_append (separator : List Char) (pieces : List (List Char))
    (last word : List Char) : joinWith separator (pieces ++ [last ++ word]) =
      joinWith separator (pieces ++ [last]) ++ word := by
  by_cases alone : pieces = []
  · rw [alone]
    rfl
  · rw [joinWith_append separator alone (List.cons_ne_nil _ _),
      joinWith_append separator alone (List.cons_ne_nil _ _)]
    exact (List.append_assoc _ last word).symm

theorem mapLater_append {word : List Char} (whole : '\n' ∉ word)
    (ends : ∀ line, change (line ++ word) = change line ++ word) (text : List Char) :
    mapLater change (text ++ word) = mapLater change text ++ word := by
  obtain ⟨front, last, shorter, longer⟩ := splitOn_append_whole whole text
  cases front with
  | nil =>
    rw [mapLater_eq_joinWith shorter, mapLater_eq_joinWith longer]
    rfl
  | cons first later =>
    rw [List.cons_append] at shorter longer
    rw [mapLater_eq_joinWith shorter, mapLater_eq_joinWith longer, List.map_append, List.map_append,
      List.map_singleton, List.map_singleton, ends, ← List.cons_append, ← List.cons_append,
      joinWith_concat_append]

theorem dropIndentation_eq_drop (column : Nat) (line : List Char) :
    dropIndentation column line = line.drop (lostAt column line) := by
  rw [dropIndentation, ← List.take_takeWhile, List.length_take, lostAt]

theorem dropIndentation_of_other {c : Char} (other : isIndentation c = false) (width : Nat)
    (rest : List Char) : dropIndentation width (c :: rest) = c :: rest := by
  rw [dropIndentation_eq_drop, lostAt, List.takeWhile_cons_of_neg (by simp [other])]
  simp

theorem dropIndentation_add (first second : Nat) (line : List Char) :
    dropIndentation second (dropIndentation first line) =
      dropIndentation (first + second) line := by
  induction first generalizing line with
  | zero => simp [dropIndentation]
  | succ first ih =>
    cases line with
    | nil => simp [dropIndentation]
    | cons c rest =>
      rw [Nat.succ_add, dropIndentation_succ, dropIndentation_succ]
      cases blank : isIndentation c with
      | true => exact ih rest
      | false => exact dropIndentation_of_other blank second rest

theorem keepsLine_dropIndentation (width : Nat) : KeepsLine (dropIndentation width) :=
  fun _ whole member => whole (List.mem_of_mem_drop member)

theorem dropIndentation_append_other {c : Char} (other : isIndentation c = false) (width : Nat)
    (line rest : List Char) :
    dropIndentation width (line ++ c :: rest) = dropIndentation width line ++ c :: rest := by
  induction width generalizing line with
  | zero => simp [dropIndentation]
  | succ width ih =>
    cases line with
    | nil => simp [dropIndentation, other]
    | cons d rest =>
      rw [List.cons_append, dropIndentation_succ, dropIndentation_succ, ih]
      split <;> rfl

theorem dropIndentation_indented {indentation : List Char}
    (blank : ∀ c ∈ indentation, isIndentation c = true) (line : List Char) :
    dropIndentation indentation.length (indentation ++ line) = line := by
  rw [dropIndentation, List.take_left, List.takeWhile_eq_self_iff.mpr blank, List.drop_left]

theorem dedent_dedent (first second : Nat) (text : List Char) :
    dedent second (dedent first text) = dedent (first + second) text := by
  have both : dropIndentation second ∘ dropIndentation first = dropIndentation (first + second) :=
    funext (dropIndentation_add first second)
  rw [dedent_eq_mapLater, dedent_eq_mapLater, dedent_eq_mapLater,
    mapLater_mapLater (keepsLine_dropIndentation first), both]

theorem indent_dedent {indentation : List Char}
    (blank : ∀ c ∈ indentation, isIndentation c = true)
    (indented : ∀ line ∈ (splitOn '\n' text).tail, indentation <+: line) :
    indent indentation (dedent indentation.length text) = text := by
  rw [indent, dedent_eq_mapLater, mapLater_mapLater (keepsLine_dropIndentation _)]
  refine mapLater_eq_self fun line member => ?_
  obtain ⟨rest, rfl⟩ := indented line member
  rw [Function.comp_apply, dropIndentation_indented blank]

theorem isIndentation_of_not_blank {c : Char} (solid : isBlank c = false) :
    isIndentation c = false := by
  cases indentation : isIndentation c with
  | false => rfl
  | true =>
    have both : c = ' ' ∨ c = '\t' := by simpa [isIndentation] using indentation
    rcases both with rfl | rfl <;> exact absurd solid (by decide)

theorem exists_concat_of_trimEnd {text : List Char} (nonempty : trimEnd text ≠ []) :
    ∃ front c, trimEnd text = front ++ [c] ∧ isBlank c = false := by
  rcases List.eq_nil_or_concat (trimEnd text) with empty | ⟨front, c, ending⟩
  · exact absurd empty nonempty
  · rw [List.concat_eq_append] at ending
    have last : (text.rdropWhile isBlank).getLast? = some c := by
      rw [← dropEnd_eq, ← trimEnd, ending, List.getLast?_concat]
    exact ⟨front, c, ending, not_of_last_rdropWhile last⟩

theorem dedent_append_solid {c : Char} {word : List Char} (solid : isBlank c = false)
    (whole : '\n' ∉ word) (width : Nat) (text : List Char) :
    dedent width (text ++ c :: word) = dedent width text ++ c :: word := by
  have apart : c ≠ '\n' := by
    rintro rfl
    exact absurd solid (by decide)
  have other := isIndentation_of_not_blank solid
  exact mapLater_append (by simp [apart.symm, whole])
    (fun line => dropIndentation_append_other other width line word) text

theorem trimEnd_dedent (width : Nat) (text : List Char) :
    trimEnd (dedent width (trimEnd text)) = dedent width (trimEnd text) := by
  by_cases empty : trimEnd text = []
  · rw [empty]
    rfl
  · obtain ⟨front, c, ending, solid⟩ := exists_concat_of_trimEnd empty
    rw [ending, dedent_append_solid solid List.not_mem_nil]
    exact List.rdropWhile_concat_neg isBlank _ c (by simp [solid])

theorem isIndentation_of_mem_take (column : Nat) (line : List Char) :
    ∀ c ∈ line.take (lostAt column line), isIndentation c = true := by
  intro c member
  have start := List.prefix_iff_eq_take.mp (List.takeWhile_prefix isIndentation (l := line))
  rw [lostAt, ← List.take_take, ← start] at member
  exact List.mem_takeWhile_imp (List.mem_of_mem_take member)

theorem length_take_lostAt (column : Nat) (line : List Char) :
    (line.take (lostAt column line)).length = lostAt column line := by
  have within : lostAt column line ≤ line.length :=
    (Nat.min_le_right _ _).trans (List.takeWhile_prefix isIndentation).length_le
  rw [List.length_take, Nat.min_eq_left within]

theorem byteLength_take_lostAt (column : Nat) (line : List Char) :
    byteLength (line.take (lostAt column line)) = lostAt column line := by
  rw [byteLength_of_indentation (isIndentation_of_mem_take column line), length_take_lostAt]

theorem length_encode (text : List Char) : (encode text).length = byteLength text := by
  induction text with
  | nil => rfl
  | cons c rest ih =>
    rw [encode, List.flatMap_cons, List.length_append, byteLength_cons, ← ih, encodeChar,
      String.length_utf8EncodeChar, encode]

theorem encode_dropIndentation (column : Nat) (line : List Char) :
    encode (dropIndentation column line) = (encode line).drop (lostAt column line) := by
  have lost : (encode (line.take (lostAt column line))).length = lostAt column line := by
    rw [length_encode, byteLength_take_lostAt]
  have parts : encode line = encode (line.take (lostAt column line)) ++
      encode (line.drop (lostAt column line)) := by
    rw [encode, encode, encode, ← List.flatMap_append, List.take_append_drop]
  rw [dropIndentation_eq_drop, parts, List.drop_left' lost]

theorem dedent_zero (text : List Char) : dedent 0 text = text :=
  (isDedented_dedent 0 text).eq_of_zero

end Text

namespace Python

open Text

theorem definitionText_eq_dedent (source : List Char) (start stop : Nat) :
    definitionText source start stop =
      dedent (columnAt source start) (trimEnd (slice source start stop)) := by
  rw [definitionText]
  split
  · rename_i column
    rw [column, dedent_zero]
  · rfl

/-- Dedenting a text keeps its first line and the number of its lines, and each other line loses as
many characters as it has indentation before the column. These are as many bytes, and the bytes
behind them encode the rest of the line. Dedenting twice is dedenting once by the sum, dedenting by
nothing keeps the text, and an indentation that all later lines have in common can be put back. The
text of a definition is its source without white space at the end, dedented by its column, and has
no white space at its end either. -/
theorem dedent_composes (text : List Char) :
    (∀ column, ∃ first later, splitOn '\n' text = first :: later ∧
        splitOn '\n' (dedent column text) =
          first :: later.map fun line => line.drop (lostAt column line)) ∧
      (∀ column line, byteLength (line.take (lostAt column line)) = lostAt column line ∧
        encode (dropIndentation column line) = (encode line).drop (lostAt column line)) ∧
      (∀ first last, first ≤ last → dedent (last - first) (dedent first text) = dedent last text) ∧
      dedent 0 text = text ∧
      (∀ indentation, (∀ c ∈ indentation, isIndentation c = true) →
        (∀ line ∈ (splitOn '\n' text).tail, indentation <+: line) →
        indent indentation (dedent indentation.length text) = text) ∧
      (∀ column, trimEnd (dedent column (trimEnd text)) = dedent column (trimEnd text)) ∧
      ∀ source start stop, definitionText source start stop =
        dedent (columnAt source start) (trimEnd (slice source start stop)) := by
  refine ⟨fun column => ?_, fun column line => ?_, fun first last within => ?_, dedent_zero text,
    fun indentation => indent_dedent, fun column => trimEnd_dedent column text,
    definitionText_eq_dedent⟩
  · obtain ⟨first, later, split⟩ := List.exists_cons_of_ne_nil (splitOn_ne_nil '\n' text)
    have lost : later.map (dropIndentation column) =
        later.map fun line => line.drop (lostAt column line) :=
      List.map_congr_left fun line _ => dropIndentation_eq_drop column line
    exact ⟨first, later, split, lost ▸ splitOn_mapLater (keepsLine_dropIndentation column) split⟩
  · exact ⟨byteLength_take_lostAt column line, encode_dropIndentation column line⟩
  · rw [dedent_dedent, Nat.add_sub_cancel' within]

def tabbedMethod : List Char := "def f():\n\t   é = 1\n\t return é".toList

theorem tabbedMethod_composes :
    dedent (3 - 1) (dedent 1 tabbedMethod) = "def f():\n é = 1\nreturn é".toList ∧
      indent ['\t', ' '] (dedent 2 tabbedMethod) = tabbedMethod := by
  obtain ⟨-, -, twice, -, back, -⟩ := dedent_composes tabbedMethod
  have once : dedent 3 tabbedMethod = "def f():\n é = 1\nreturn é".toList := by decide +kernel
  have indented : ∀ line ∈ (splitOn '\n' tabbedMethod).tail, ['\t', ' '] <+: line := by
    decide +kernel
  exact ⟨(twice 1 3 (by decide)).trans once, back ['\t', ' '] (by simp [isIndentation]) indented⟩

end Python

end PythonDocs
