import Mathlib.Data.List.DropRight
import Mathlib.Data.List.Forall2
import Mathlib.Data.List.TakeWhile
import PythonDocs.Text.Blank
import PythonDocs.Text.Lines

namespace PythonDocs.Text

/-- A line loses its first characters, at most `width` and all of them blanks or tabs, and keeps
such a character at its start only if it has lost that many. -/
structure LosesIndentation (width : Nat) (line rest : List Char) : Prop where
  split : ∃ lost, line = lost ++ rest ∧ (∀ c ∈ lost, isIndentation c = true) ∧
    lost.length ≤ width ∧ (lost.length < width → ∀ c, rest.head? = some c → isIndentation c = false)

/-- A text keeps its first line, and each other line loses indentation. -/
def IsDedented (width : Nat) (text result : List Char) : Prop :=
  ∃ first lines shorter, splitOn '\n' text = first :: lines ∧
    result = joinWith ['\n'] (first :: shorter) ∧
    List.Forall₂ (LosesIndentation width) lines shorter

theorem dropIndentation_succ (width : Nat) (c : Char) (rest : List Char) :
    dropIndentation (width + 1) (c :: rest) =
      if isIndentation c then dropIndentation width rest else c :: rest := by
  cases blank : isIndentation c <;> simp [dropIndentation, blank]

theorem losesIndentation_dropIndentation (width : Nat) (line : List Char) :
    LosesIndentation width line (dropIndentation width line) := by
  induction width generalizing line with
  | zero => exact ⟨[], by simp [dropIndentation], by simp, Nat.le_refl _, nofun⟩
  | succ width ih =>
    cases line with
    | nil => exact ⟨[], by simp [dropIndentation], by simp, Nat.zero_le _, by simp [dropIndentation]⟩
    | cons c rest =>
      rw [dropIndentation_succ]
      split
      · rename_i blank
        obtain ⟨lost, same, all, short, ends⟩ := (ih rest).split
        refine ⟨c :: lost, by rw [List.cons_append, ← same], ?_, Nat.succ_le_succ short, ?_⟩
        · exact List.forall_mem_cons.mpr ⟨blank, all⟩
        · exact fun less => ends (Nat.lt_of_succ_lt_succ less)
      · rename_i other
        refine ⟨[], rfl, by simp, Nat.zero_le _, fun _ d head => ?_⟩
        cases head
        exact Bool.eq_false_iff.mpr other

theorem isDedented_dedent (width : Nat) (text : List Char) :
    IsDedented width text (dedent width text) := by
  cases split : splitOn '\n' text with
  | nil => exact absurd split (splitOn_ne_nil '\n' text)
  | cons first lines =>
    refine ⟨first, lines, lines.map (dropIndentation width), split, by simp [dedent, split], ?_⟩
    rw [List.forall₂_map_right_iff, List.forall₂_same]
    exact fun line _ => losesIndentation_dropIndentation width line

theorem IsDedented.eq_of_zero {text result : List Char} (dedented : IsDedented 0 text result) :
    result = text := by
  obtain ⟨first, lines, shorter, split, rfl, lose⟩ := dedented
  have same : lines = shorter := by
    refine List.forall₂_eq_eq_eq ▸ lose.imp fun line rest loses => ?_
    obtain ⟨lost, whole, -, none, -⟩ := loses.split
    rw [whole, List.length_eq_zero_iff.mp (Nat.le_zero.mp none), List.nil_append]
  rw [← same, ← split, joinWith_splitOn]

theorem isDedented_zero (text : List Char) : IsDedented 0 text text := by
  have dedented := isDedented_dedent 0 text
  rwa [dedented.eq_of_zero] at dedented

@[simp] theorem byteLength_nil : byteLength [] = 0 := rfl

theorem byteLength_cons (c : Char) (text : List Char) :
    byteLength (c :: text) = c.utf8Size + byteLength text := rfl

theorem byteLength_append (first second : List Char) :
    byteLength (first ++ second) = byteLength first + byteLength second := by
  induction first with
  | nil => simp
  | cons c rest ih => rw [List.cons_append, byteLength_cons, byteLength_cons, ih, Nat.add_assoc]

theorem byteLength_reverse (text : List Char) : byteLength text.reverse = byteLength text := by
  induction text with
  | nil => rfl
  | cons c rest ih =>
    rw [List.reverse_cons, byteLength_append, ih, byteLength_cons, byteLength_cons, byteLength_nil]
    omega

theorem byteLength_of_indentation {text : List Char}
    (blank : ∀ c ∈ text, isIndentation c = true) : byteLength text = text.length := by
  induction text with
  | nil => rfl
  | cons c rest ih =>
    rw [List.forall_mem_cons] at blank
    have one : c.utf8Size = 1 := by
      have both : c = ' ' ∨ c = '\t' := by simpa [isIndentation] using blank.1
      rcases both with rfl | rfl <;> rfl
    rw [byteLength_cons, one, ih blank.2, List.length_cons, Nat.add_comm]

/-- What stands before a place on its line: a margin, and behind it blanks and tabs only. -/
structure StandsBehind (text : List Char) (place : Nat) (margin indentation : List Char) : Prop where
  split : ∃ lines, text.take place = lines ++ (margin ++ indentation) ∧
    ∀ c, lines.getLast? = some c → c = '\n'
  line : '\n' ∉ margin
  blank : ∀ c ∈ indentation, isIndentation c = true
  ends : ∀ c, margin.getLast? = some c → isIndentation c = false

theorem dropEnd_eq (p : Char → Bool) (text : List Char) : dropEnd p text = text.rdropWhile p := rfl

theorem not_of_last_rdropWhile {p : Char → Bool} {text : List Char} {c : Char}
    (last : (text.rdropWhile p).getLast? = some c) : p c = false := by
  obtain ⟨nonempty, rfl⟩ := List.mem_getLast?_eq_getLast last
  simpa using List.rdropWhile_last_not p text nonempty

theorem exists_standsBehind (text : List Char) (place : Nat) :
    ∃ margin indentation, StandsBehind text place margin indentation := by
  have before := @List.rdropWhile_append_rtakeWhile _ (· ≠ '\n') (text.take place)
  have inLine : ∀ c ∈ (text.take place).rtakeWhile (· ≠ '\n'), c ≠ '\n' := by
    intro c member
    simpa using List.mem_rtakeWhile_imp member
  generalize (text.take place).rtakeWhile (· ≠ '\n') = line at before inLine
  have parts := @List.rdropWhile_append_rtakeWhile _ isIndentation line
  refine ⟨_, _, ⟨_, (parts ▸ before).symm, fun c last => ?_⟩, ?_,
    fun c => List.mem_rtakeWhile_imp, fun c => not_of_last_rdropWhile⟩
  · simpa using not_of_last_rdropWhile last
  · intro member
    exact inLine _ (parts ▸ List.mem_append_left _ member) rfl

theorem StandsBehind.columnAt_eq {text margin indentation : List Char} {place : Nat}
    (stands : StandsBehind text place margin indentation) :
    columnAt text place = byteLength margin + indentation.length := by
  obtain ⟨⟨lines, split, ends⟩, line, blank, -⟩ := stands
  have inLine : ∀ c ∈ (margin ++ indentation).reverse, decide (c ≠ '\n') = true := by
    intro c member
    rw [List.mem_reverse, List.mem_append] at member
    refine decide_eq_true ?_
    rintro rfl
    rcases member with member | member
    · exact line member
    · exact absurd (blank _ member) (by decide)
  have ending : lines.reverse.takeWhile (· ≠ '\n') = [] := by
    cases reversed : lines.reverse with
    | nil => rfl
    | cons c rest =>
      obtain rfl : c = '\n' := ends c (by rw [← List.head?_reverse, reversed]; rfl)
      simp
  rw [columnAt, split, List.reverse_append, List.takeWhile_append_of_pos inLine, ending,
    List.append_nil, byteLength_reverse, byteLength_append, byteLength_of_indentation blank]

def IsSolidAt (text : List Char) (place : Nat) : Prop :=
  ∃ c, text[place]? = some c ∧ isBlank c = false

theorem isSolidAt_of_slice {text rest : List Char} {start stop : Nat} {c : Char}
    (same : slice text start stop = c :: rest) (solid : isBlank c = false) :
    IsSolidAt text start := by
  have head := congrArg List.head? same
  rw [slice, List.head?_take, List.head?_drop] at head
  split at head
  · cases head
  · exact ⟨c, head, solid⟩

end PythonDocs.Text
