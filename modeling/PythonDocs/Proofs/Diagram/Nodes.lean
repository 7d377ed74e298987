import PythonDocs.Diagram

namespace PythonDocs

namespace Text

def IsPlainSmall (c : Char) : Prop := c.toNat < 0xC0 ∧ ¬ (0x41 ≤ c.toNat ∧ c.toNat ≤ 0x5A)

instance (c : Char) : Decidable (IsPlainSmall c) := instDecidableAnd

theorem IsPlainSmall.lowerChar {c : Char} (small : IsPlainSmall c) :
    Text.lowerChar c = [c] ∧ c ≠ capitalSigma := by
  have early : ∀ other : Char, 0xC0 ≤ other.toNat → c ≠ other := by
    rintro other late rfl
    exact absurd small.1 (Nat.not_lt.mpr late)
  have runs : ∀ run ∈ capitals, run.1 = 0x41 ∧ run.2.1 = 0x5A ∨ 0xC0 ≤ run.1 := by decide +kernel
  refine ⟨?_, early _ (by decide)⟩
  rw [Text.lowerChar, if_neg (early _ (by decide))]
  split
  · rename_i first last step _ found
    have inside := List.find?_some found
    simp only [Bool.and_eq_true, decide_eq_true_eq] at inside
    rcases runs _ (List.mem_of_find?_eq_some found) with ⟨rfl, rfl⟩ | late
    · exact absurd inside.1 small.2
    · exact absurd small.1 (Nat.not_lt.mpr (Nat.le_trans late inside.1.1))
  · rfl

theorem mem_lowerCase {c : Char} {text : String} (small : IsPlainSmall c)
    (member : c ∈ text.toList) : c ∈ (lowerCase text).toList := by
  have kept (before rest : List Char) (inside : c ∈ rest) : c ∈ lowerAfter before rest := by
    induction rest generalizing before with
    | nil => cases inside
    | cons first rest ih =>
      rw [lowerAfter, List.mem_append]
      rcases List.mem_cons.mp inside with rfl | later
      · exact .inl (by simp [small.lowerChar])
      · exact .inr (ih _ later)
  rw [lowerCase, String.toList_ofList]
  exact kept [] _ member

theorem lowerCase_eq_self {text : String} (small : ∀ c ∈ text.toList, IsPlainSmall c) :
    lowerCase text = text := by
  have same (before : List Char) {rest : List Char} (small : ∀ c ∈ rest, IsPlainSmall c) :
      lowerAfter before rest = rest := by
    induction rest generalizing before with
    | nil => rfl
    | cons first rest ih =>
      rw [List.forall_mem_cons] at small
      simp [lowerAfter, small.1.lowerChar, ih _ small.2]
  rw [lowerCase, same [] small, String.ofList_toList]

end Text

namespace Diagram

open Text (isAlphanumeric lowerCase)

def isIdentifierChar (c : Char) : Bool := isAlphanumeric c || c == '_'

def IsReserved (id : String) : Prop := ∃ word ∈ reserved, lowerCase id = lowerCase word

instance (id : String) : Decidable (IsReserved id) :=
  inferInstanceAs (Decidable (∃ word ∈ reserved, lowerCase id = lowerCase word))

/-- How a name stands on an edge. -/
inductive IsNode (name : String) : String → Prop
  | plain (characters : ∀ c ∈ (identifier name).toList, isAlphanumeric c = true ∨ c = '_')
      (some : name ≠ "" → identifier name ≠ "") (free : ¬ IsReserved (identifier name)) :
      IsNode name (identifier name)
  | labelled (taken : IsReserved (identifier name))
      (characters : ∀ c ∈ name.toList, isAlphanumeric c = true) :
      IsNode name ("n_" ++ identifier name ++ "[\"" ++ name ++ "\"]")

theorem reserved_contains_iff (id : String) :
    reserved.contains (lowerCase id) = true ↔ IsReserved id := by
  have letters : ∀ word ∈ reserved, word.toList.all fun c => Text.IsPlainSmall c := by decide
  have small : ∀ word ∈ reserved, lowerCase word = word := fun word member =>
    Text.lowerCase_eq_self (by simpa using letters word member)
  rw [List.contains_iff_mem]
  constructor
  · intro member
    exact ⟨_, member, (small _ member).symm⟩
  · intro given
    obtain ⟨word, member, same⟩ := given
    rwa [same, small word member]

theorem not_isReserved_of_underscore {id : String} (inside : '_' ∈ id.toList) :
    ¬ IsReserved id := by
  have plain : ∀ word ∈ reserved, '_' ∉ word.toList := by decide
  rw [← reserved_contains_iff, List.contains_iff_mem]
  exact fun member =>
    plain _ member (Text.mem_lowerCase (by decide) inside)

theorem isIdentifierChar_of_mem {name : String} {c : Char} (member : c ∈ (identifier name).toList) :
    isIdentifierChar c = true := by
  rw [identifier, String.toList_ofList] at member
  obtain ⟨other, -, rfl⟩ := List.mem_map.mp member
  split
  · assumption
  · rfl

theorem identifier_ne_empty {name : String} (some : name ≠ "") : identifier name ≠ "" := by
  intro empty
  apply some
  simpa [identifier] using congrArg String.toList empty

theorem identifier_eq_self {name : String} (plain : '_' ∉ (identifier name).toList) :
    identifier name = name ∧ ∀ c ∈ name.toList, isAlphanumeric c = true := by
  have alphanumeric : ∀ c ∈ name.toList, isAlphanumeric c = true := by
    intro c member
    cases kept : isAlphanumeric c with
    | true => rfl
    | false =>
      refine absurd ?_ plain
      rw [identifier, String.toList_ofList, List.mem_map]
      exact ⟨c, member, by simp [kept]⟩
  refine ⟨?_, alphanumeric⟩
  rw [identifier, ← String.toList_inj, String.toList_ofList]
  refine (List.map_congr_left fun c member => ?_).trans (List.map_id _)
  exact if_pos (by rw [alphanumeric c member, Bool.true_or])

section

variable {name : String}

theorem node_of_isReserved (taken : IsReserved (identifier name)) :
    node name = "n_" ++ identifier name ++ "[\"" ++ name ++ "\"]" := by
  have listed := (reserved_contains_iff _).mpr taken
  simp only [node, listed, ↓reduceIte]

theorem node_of_free (free : ¬ IsReserved (identifier name)) : node name = identifier name := by
  have unlisted := mt (reserved_contains_iff _).mp free
  simp only [node, unlisted, Bool.false_eq_true, ↓reduceIte]

theorem label_of_isReserved (taken : IsReserved (identifier name)) :
    identifier name = name ∧ ∀ c ∈ name.toList, isAlphanumeric c = true :=
  identifier_eq_self fun inside => not_isReserved_of_underscore inside taken

theorem isNode_node (name : String) : IsNode name (node name) := by
  by_cases taken : IsReserved (identifier name)
  · rw [node_of_isReserved taken]
    exact .labelled taken (label_of_isReserved taken).2
  · rw [node_of_free taken]
    refine .plain (fun c member => ?_) identifier_ne_empty taken
    simpa [isIdentifierChar] using isIdentifierChar_of_mem member

end

def written (name : String) : String :=
  if IsReserved (identifier name) then "n_" ++ identifier name else identifier name

theorem isIdentifierChar_of_mem_written {name : String} :
    ∀ c ∈ (written name).toList, isIdentifierChar c = true := by
  intro c member
  unfold written at member
  split at member
  · rw [String.toList_append, List.mem_append] at member
    rcases member with first | later
    · have only : "n_".toList.all isIdentifierChar = true := by decide
      exact List.all_eq_true.mp only c first
    · exact isIdentifierChar_of_mem later
  · exact isIdentifierChar_of_mem member

theorem exists_label (name : String) : ∃ label : List Char,
    (node name).toList = (written name).toList ++ label ∧
      (label = [] ∨ ∃ word, label = '[' :: word ++ [']'] ∧
        ∀ c ∈ word, isIdentifierChar c = true ∨ c = '"') := by
  unfold written
  split
  · rename_i taken
    refine ⟨'[' :: ('"' :: name.toList ++ ['"']) ++ [']'], ?_, .inr ⟨_, rfl, ?_⟩⟩
    · simp [node_of_isReserved taken]
    · have letters := (label_of_isReserved taken).2
      intro c member
      by_cases quote : c = '"'
      · exact .inr quote
      · have inside : c ∈ name.toList := by simpa [quote] using member
        exact .inl (by simp [isIdentifierChar, letters c inside])
  · rename_i free
    exact ⟨[], by simp [node_of_free free], .inl rfl⟩

theorem mem_node {name : String} {c : Char} (member : c ∈ (node name).toList) :
    isIdentifierChar c = true ∨ c ∈ ['[', '"', ']'] := by
  obtain ⟨label, same, cases⟩ := exists_label name
  rw [same, List.mem_append] at member
  rcases member with first | later
  · exact .inl (isIdentifierChar_of_mem_written c first)
  · rcases cases with rfl | ⟨word, rfl, characters⟩
    · cases later
    · rw [List.mem_append, List.mem_cons, List.mem_singleton] at later
      rcases later with (rfl | inside) | rfl
      · simp
      · rcases characters c inside with letter | rfl
        · exact .inl letter
        · simp
      · simp

def readNode (text : List Char) : List Char × List Char :=
  (text.takeWhile isIdentifierChar,
    match text.dropWhile isIdentifierChar with
    | '[' :: label => (label.dropWhile (· ≠ ']')).tail
    | rest => rest)

def nodeId (node : String) : String := .ofList (readNode node.toList).1

theorem readNode_node (name : String) (rest : List Char)
    (clear : ∀ c, rest.head? = some c → isIdentifierChar c = false ∧ c ≠ '[') :
    readNode ((node name).toList ++ rest) = ((written name).toList, rest) := by
  obtain ⟨label, same, cases⟩ := exists_label name
  have characters := @isIdentifierChar_of_mem_written name
  have stops : (label ++ rest).takeWhile isIdentifierChar = [] ∧
      (label ++ rest).dropWhile isIdentifierChar = label ++ rest := by
    rcases cases with rfl | ⟨word, rfl, -⟩
    · cases rest with
      | nil => exact ⟨rfl, rfl⟩
      | cons c rest => simp [(clear c rfl).1]
    · have bracket : isIdentifierChar '[' = false := by decide
      simp [bracket]
  rw [readNode, same, List.append_assoc, List.takeWhile_append_of_pos characters,
    List.dropWhile_append_of_pos characters, stops.1, stops.2, List.append_nil]
  rcases cases with rfl | ⟨word, rfl, characters⟩
  · cases rest with
    | nil => rfl
    | cons c rest =>
      have other := (clear c rfl).2
      simp [other]
  · have inside : ∀ c ∈ word, decide (c ≠ ']') = true := by
      intro c member
      rw [decide_eq_true_iff]
      rintro rfl
      rcases characters _ member with letter | quote
      · exact absurd letter (by decide)
      · cases quote
    have dropped : (word ++ ']' :: rest).dropWhile (· ≠ ']') = ']' :: rest := by
      rw [List.dropWhile_append_of_pos inside]
      simp
    simp only [List.cons_append, List.append_assoc, List.nil_append]
    rw [dropped]
    rfl

theorem nodeId_node (name : String) : nodeId (node name) = written name := by
  have read := readNode_node name [] nofun
  rw [List.append_nil] at read
  rw [nodeId, read, String.ofList_toList]

/-- A name is reserved, and the identifier that it gets instead is that of the other name. -/
def Covers (first second : String) : Prop :=
  IsReserved (identifier first) ∧ identifier second = "n_" ++ identifier first

theorem underscore_of_prefixed (id : String) : '_' ∈ ("n_" ++ id).toList := by simp

theorem Covers.free {first second : String} (covers : Covers first second) :
    ¬ IsReserved (identifier second) := by
  rw [covers.2]
  exact not_isReserved_of_underscore (underscore_of_prefixed _)

theorem written_eq_iff (first second : String) : written first = written second ↔
    identifier first = identifier second ∨ Covers first second ∨ Covers second first := by
  have prefixed : ∀ id other : String, "n_" ++ id = "n_" ++ other ↔ id = other := by simp
  unfold written
  by_cases one : IsReserved (identifier first) <;> by_cases two : IsReserved (identifier second)
  · have apart : ¬ Covers first second := fun covers => covers.free two
    have apartToo : ¬ Covers second first := fun covers => covers.free one
    simp [one, two, apart, apartToo, prefixed]
  · have apart : identifier first ≠ identifier second := fun same => two (same ▸ one)
    simp [one, two, apart, Covers, eq_comm]
  · have apart : identifier first ≠ identifier second := fun same => one (same ▸ two)
    simp [one, two, apart, Covers]
  · simp [one, two, Covers]

end Diagram

end PythonDocs
