import PythonDocs.Text.Lines

namespace PythonDocs.Text

variable {separator : Char}

theorem splitOn_cons_separator (separator : Char) (rest : List Char) :
    splitOn separator (separator :: rest) = [] :: splitOn separator rest := by
  simp [splitOn]

theorem splitOn_cons_other {c : Char} {rest piece : List Char} {pieces : List (List Char)}
    (other : c ≠ separator) (split : splitOn separator rest = piece :: pieces) :
    splitOn separator (c :: rest) = (c :: piece) :: pieces := by
  simp [splitOn, other, split]

theorem splitOn_append (separator : Char) (before behind : List Char) :
    splitOn separator (before ++ separator :: behind) =
      splitOn separator before ++ splitOn separator behind := by
  simp only [splitOn_eq]
  exact List.splitOnP_append_cons _ _ (beq_self_eq_true separator)

theorem splitOn_of_not_mem {text : List Char} (whole : separator ∉ text) :
    splitOn separator text = [text] := by
  rw [splitOn_eq]
  refine List.splitOnP_eq_singleton fun c member => beq_false_of_ne ?_
  rintro rfl
  exact whole member

theorem not_mem_of_mem_splitOn {text piece : List Char} (member : piece ∈ splitOn separator text) :
    separator ∉ piece := by
  induction text generalizing piece with
  | nil => exact List.mem_singleton.mp member ▸ List.not_mem_nil
  | cons c rest ih =>
    by_cases same : c = separator
    · rw [same, splitOn_cons_separator] at member
      rcases List.mem_cons.mp member with rfl | later
      · exact List.not_mem_nil
      · exact ih later
    · obtain ⟨first, others, split⟩ := List.exists_cons_of_ne_nil (splitOn_ne_nil separator rest)
      rw [splitOn_cons_other same split] at member
      rw [split] at ih
      rcases List.mem_cons.mp member with rfl | later
      · have whole := ih List.mem_cons_self
        simp [whole, Ne.symm same]
      · exact ih (List.mem_cons_of_mem _ later)

theorem splitOn_joinWith {pieces : List (List Char)} (some : pieces ≠ [])
    (whole : ∀ piece ∈ pieces, separator ∉ piece) :
    splitOn separator (joinWith [separator] pieces) = pieces := by
  rw [joinWith_eq, splitOn_eq, List.splitOn_intercalate separator whole some]

theorem splitOn_append_whole {word : List Char} (whole : separator ∉ word) (text : List Char) :
    ∃ front last, splitOn separator text = front ++ [last] ∧
      splitOn separator (text ++ word) = front ++ [last ++ word] := by
  induction text with
  | nil => exact ⟨[], [], rfl, splitOn_of_not_mem whole⟩
  | cons c rest ih =>
    obtain ⟨front, last, shorter, longer⟩ := ih
    by_cases same : c = separator
    · subst same
      refine ⟨[] :: front, last, ?_, ?_⟩
      · rw [splitOn_cons_separator, shorter, List.cons_append]
      · rw [List.cons_append, splitOn_cons_separator, longer, List.cons_append]
    · cases front with
      | nil =>
        exact ⟨[], c :: last, splitOn_cons_other same shorter, splitOn_cons_other same longer⟩
      | cons piece pieces =>
        exact ⟨(c :: piece) :: pieces, last, splitOn_cons_other same shorter,
          splitOn_cons_other same longer⟩

theorem splitOn_whole_append {word : List Char} (whole : separator ∉ word) {text first : List Char}
    {later : List (List Char)} (split : splitOn separator text = first :: later) :
    splitOn separator (word ++ text) = (word ++ first) :: later := by
  induction word with
  | nil => exact split
  | cons c rest ih =>
    rw [List.mem_cons, not_or] at whole
    exact splitOn_cons_other (Ne.symm whole.1) (ih whole.2)

section

variable {pieces : List (List Char)} {word : List Char}

theorem joinWith_cons_cons (separator : List Char) (piece next : List Char)
    (rest : List (List Char)) : joinWith separator (piece :: next :: rest) =
      piece ++ separator ++ joinWith separator (next :: rest) := rfl

theorem joinWith_append (separator : List Char) {first second : List (List Char)}
    (some : first ≠ []) (also : second ≠ []) :
    joinWith separator (first ++ second) =
      joinWith separator first ++ separator ++ joinWith separator second := by
  induction first with
  | nil => exact absurd rfl some
  | cons piece rest ih =>
    cases rest with
    | nil =>
      obtain ⟨next, more, rfl⟩ := List.exists_cons_of_ne_nil also
      rfl
    | cons next more =>
      have below := ih (List.cons_ne_nil _ _)
      rw [List.cons_append] at below
      rw [List.cons_append, List.cons_append, joinWith_cons_cons, below, joinWith_cons_cons]
      simp only [List.append_assoc]

theorem joinWith_append_cons (separator word piece : List Char) (rest : List (List Char)) :
    joinWith separator ((word ++ piece) :: rest) = word ++ joinWith separator (piece :: rest) := by
  cases rest with
  | nil => rfl
  | cons next more => simp only [joinWith_cons_cons, List.append_assoc]

theorem exists_piece_of_joinWith (whole : ∀ piece ∈ pieces, separator ∉ piece)
    (clean : separator ∉ word) {front rest : List Char}
    (split : joinWith [separator] pieces = front ++ word ++ separator :: rest) :
    ∃ piece ∈ pieces.dropLast, word <:+ piece := by
  have some : pieces ≠ [] := by
    rintro rfl
    simp [joinWith] at split
  have parts := splitOn_joinWith some whole
  obtain ⟨before, last, -, longer⟩ := splitOn_append_whole clean front
  rw [split, splitOn_append, longer, List.append_assoc] at parts
  have more := splitOn_ne_nil separator rest
  rw [← parts, List.dropLast_append_of_ne_nil (by simp), List.singleton_append,
    List.dropLast_cons_of_ne_nil more]
  exact ⟨last ++ word, by simp, List.suffix_append _ _⟩

theorem exists_joinWith_eq_append {last : List Char} (ends : pieces.getLast? = some last)
    (separator : List Char) : ∃ front, joinWith separator pieces = front ++ last := by
  induction pieces with
  | nil => cases ends
  | cons first others ih =>
    cases others with
    | nil =>
      cases ends
      exact ⟨[], rfl⟩
    | cons next more =>
      rw [List.getLast?_cons_cons] at ends
      obtain ⟨front, same⟩ := ih ends
      exact ⟨first ++ separator ++ front, by simp [joinWith_cons_cons, same]⟩

theorem joinWith_of_mem_dropLast {piece : List Char} (member : piece ∈ pieces.dropLast)
    (separator : List Char) :
    ∃ front rest, joinWith separator pieces = front ++ piece ++ separator ++ rest := by
  induction pieces with
  | nil => cases member
  | cons first others ih =>
    cases others with
    | nil => cases member
    | cons next more =>
      rw [List.dropLast_cons_of_ne_nil (List.cons_ne_nil _ _)] at member
      rw [joinWith_cons_cons]
      rcases List.mem_cons.mp member with rfl | later
      · exact ⟨[], joinWith separator (next :: more), rfl⟩
      · obtain ⟨front, rest, same⟩ := ih later
        exact ⟨first ++ separator ++ front, rest, by simp [same]⟩

end

theorem mem_joinWith {separator : List Char} {pieces : List (List Char)} {c : Char}
    (member : c ∈ joinWith separator pieces) :
    c ∈ separator ∨ ∃ piece ∈ pieces, c ∈ piece := by
  induction pieces with
  | nil => cases member
  | cons piece rest ih =>
    cases rest with
    | nil => exact .inr ⟨piece, List.mem_cons_self, member⟩
    | cons next more =>
      rw [joinWith, List.mem_append, List.mem_append] at member
      · rcases member with (first | between) | later
        · exact .inr ⟨piece, List.mem_cons_self, first⟩
        · exact .inl between
        · rcases ih later with between | ⟨other, inside, given⟩
          · exact .inl between
          · exact .inr ⟨other, List.mem_cons_of_mem _ inside, given⟩
      · exact List.cons_ne_nil _ _

theorem splitOn_joinWith_flatMap (separator : Char) {texts : List (List Char)}
    (some : texts ≠ []) :
    splitOn separator (joinWith [separator] texts) = texts.flatMap (splitOn separator) := by
  induction texts with
  | nil => exact absurd rfl some
  | cons text rest ih =>
    cases rest with
    | nil => simp [joinWith]
    | cons next more =>
      rw [joinWith_cons_cons, List.append_assoc, List.singleton_append, splitOn_append,
        ih (List.cons_ne_nil _ _)]
      exact List.flatMap_cons.symm

theorem splitOn_cases (separator : Char) (text : List Char) :
    splitOn separator text = [text] ∨ ∃ piece rest, splitOn separator text = piece :: rest ∧
      piece <+: text ∧ piece ≠ text := by
  have whole := joinWith_splitOn separator text
  cases pieces : splitOn separator text with
  | nil => exact absurd pieces (splitOn_ne_nil separator text)
  | cons piece rest =>
    rw [pieces] at whole
    cases rest with
    | nil => exact .inl (congrArg ([·]) whole)
    | cons next more =>
      refine .inr ⟨piece, _, rfl, ⟨_, (List.append_assoc ..).symm.trans whole⟩, ?_⟩
      rintro rfl
      simp [joinWith_cons_cons] at whole

theorem flatMap_splitOn_cases (separator : Char) (texts : List (List Char)) :
    texts.flatMap (splitOn separator) = texts ∨ ∃ front piece rest text more,
      texts.flatMap (splitOn separator) = front ++ piece :: rest ∧ texts = front ++ text :: more ∧
        piece <+: text ∧ piece ≠ text := by
  induction texts with
  | nil => exact .inl rfl
  | cons text more ih =>
    rw [List.flatMap_cons]
    rcases splitOn_cases separator text with single | ⟨piece, rest, split, starts, apart⟩
    · rw [single]
      rcases ih with same | ⟨front, piece, rest, other, others, split, listed, starts, apart⟩
      · exact .inl (congrArg (text :: ·) same)
      · exact .inr ⟨text :: front, piece, rest, other, others, congrArg (text :: ·) split,
          congrArg (text :: ·) listed, starts, apart⟩
    · exact .inr ⟨[], piece, _, text, more, by rw [split]; rfl, rfl, starts, apart⟩

theorem slice_append_slice {source : List Char} {first middle last : Nat} (left : first ≤ middle)
    (right : middle ≤ last) :
    slice source first middle ++ slice source middle last = slice source first last := by
  have total : last - first = (middle - first) + (last - middle) := by omega
  have shift : first + (middle - first) = middle := by omega
  rw [slice, slice, slice, total, List.take_add, List.drop_drop, shift]

end PythonDocs.Text
