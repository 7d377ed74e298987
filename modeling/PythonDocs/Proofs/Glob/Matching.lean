import PythonDocs.Glob
import PythonDocs.Proofs.FilePath.Below

namespace PythonDocs.Glob

variable {glob : Glob} {text letters : List Char}

theorem mem_ends {rest : List Char} : rest ∈ ends text ↔ ∃ front, text = front ++ rest := by
  induction text with
  | nil => simp [ends]
  | cons c others ih =>
    rw [ends, List.mem_cons, ih]
    constructor
    · intro given
      rcases given with rfl | ⟨front, rfl⟩
      · exact ⟨[], rfl⟩
      · exact ⟨c :: front, rfl⟩
    · intro given
      obtain ⟨front, same⟩ := given
      cases front with
      | nil => exact .inl same.symm
      | cons d front => exact .inr ⟨front, (List.cons.inj same).2⟩

theorem matchesText_sequence : matchesText (.sequence :: glob) text = true ↔
    ∃ front rest, text = front ++ rest ∧ matchesText glob rest = true := by
  rw [matchesText, List.any_eq_true]
  constructor
  · intro given
    obtain ⟨rest, member, matched⟩ := given
    obtain ⟨front, same⟩ := mem_ends.mp member
    exact ⟨front, rest, same, matched⟩
  · intro given
    obtain ⟨front, rest, same, matched⟩ := given
    exact ⟨rest, mem_ends.mpr ⟨front, same⟩, matched⟩

theorem matchesText_letters : matchesText (letters.map .char ++ glob) text = true ↔
    ∃ rest, text = letters ++ rest ∧ matchesText glob rest = true := by
  induction letters generalizing text with
  | nil => simp
  | cons c others ih =>
    cases text with
    | nil => simp [matchesText]
    | cons d rest =>
      have step : matchesText (.char c :: (others.map .char ++ glob)) (d :: rest) =
          (decide (c = d) && matchesText (others.map .char ++ glob) rest) := rfl
      rw [List.map_cons, List.cons_append, step, Bool.and_eq_true, decide_eq_true_iff, ih]
      constructor
      · intro given
        obtain ⟨rfl, behind, rfl, matched⟩ := given
        exact ⟨behind, rfl, matched⟩
      · intro given
        obtain ⟨behind, same, matched⟩ := given
        obtain ⟨rfl, rfl⟩ := List.cons.inj same
        exact ⟨rfl, behind, rfl, matched⟩

theorem matchesText_exact : matchesText (letters.map .char) text = true ↔ text = letters := by
  rw [← List.append_nil (letters.map Token.char), matchesText_letters]
  simp [matchesText]

theorem matchesText_directories (matched : matchesText glob text = true) :
    matchesText (.directories :: glob) text = true := by
  rw [matchesText, List.any_eq_true]
  exact ⟨text, List.mem_append_left _ List.mem_cons_self, matched⟩

theorem matchesText_directories_last (text : List Char) :
    matchesText [.directories] text = true := by
  rw [matchesText, List.any_eq_true]
  exact ⟨[], List.mem_append_right _ List.mem_cons_self, rfl⟩

def contents (name : String) : Glob := name.toList.map .char ++ [.char '/', .directories]

theorem matchesText_contents {name : String} :
    matchesText (contents name) text = true ↔ ∃ rest, text = name.toList ++ '/' :: rest := by
  have slash : ([.char '/', .directories] : Glob) = ['/'].map .char ++ [.directories] := rfl
  rw [contents, matchesText_letters, slash]
  constructor
  · intro given
    obtain ⟨behind, rfl, matched⟩ := given
    obtain ⟨rest, rfl, -⟩ := matchesText_letters.mp matched
    exact ⟨rest, rfl⟩
  · intro given
    obtain ⟨rest, rfl⟩ := given
    exact ⟨_, rfl, matchesText_letters.mpr ⟨rest, rfl, matchesText_directories_last rest⟩⟩

section

variable {names : List String} {word : String}

/-- What is below a directory at the top. -/
theorem isMatch_contents (valid : ∀ name ∈ names, IsFileName name) (whole : '/' ∉ word.toList) :
    isMatch (contents word) (Text.join "/" names) = true ↔
      ∃ next rest, names = word :: next :: rest := by
  rw [isMatch, matchesText_contents, FilePath.joined_toList]
  constructor
  · intro given
    obtain ⟨rest, split⟩ := given
    have some : names ≠ [] := by
      intro same
      subst same
      simp [Text.joinWith] at split
    have parts := FilePath.splitOn_joined some valid
    rw [FilePath.joined_toList, split, Text.splitOn_append, Text.splitOn_of_not_mem whole,
      List.singleton_append] at parts
    obtain ⟨first, others, rfl, same, further⟩ := List.map_eq_cons_iff.mp parts.symm
    have more : others ≠ [] := by
      intro same
      subst same
      exact Text.splitOn_ne_nil '/' rest further.symm
    obtain ⟨next, behind, rfl⟩ := List.exists_cons_of_ne_nil more
    exact ⟨next, behind, by rw [String.toList_inj.mp same]⟩
  · intro given
    obtain ⟨next, rest, rfl⟩ := given
    exact ⟨Text.joinWith ['/'] ((next :: rest).map String.toList), by
      simp [Text.joinWith_cons_cons]⟩

/-- What is below a directory with a name that ends in a word. -/
theorem isMatch_sequence_contents (valid : ∀ name ∈ names, IsFileName name)
    (whole : '/' ∉ word.toList) :
    isMatch (.sequence :: contents word) (Text.join "/" names) = true ↔
      ∃ name ∈ names.dropLast, ∃ front, name = front ++ word := by
  have pieces : ∀ piece ∈ names.map String.toList, '/' ∉ piece := by
    rw [List.forall_mem_map]
    exact fun name member => (valid name member).noSlash
  rw [isMatch, matchesText_sequence, FilePath.joined_toList]
  constructor
  · intro given
    obtain ⟨front, behind, split, matched⟩ := given
    obtain ⟨rest, rfl⟩ := matchesText_contents.mp matched
    rw [← List.append_assoc] at split
    obtain ⟨piece, member, ends⟩ := Text.exists_piece_of_joinWith pieces whole split
    rw [← List.map_dropLast] at member
    obtain ⟨name, inside, rfl⟩ := List.mem_map.mp member
    obtain ⟨start, same⟩ := ends
    exact ⟨name, inside, .ofList start, by rw [← String.toList_inj]; simp [same]⟩
  · intro given
    obtain ⟨name, member, front, rfl⟩ := given
    have inside : (front ++ word).toList ∈ (names.map String.toList).dropLast := by
      rw [← List.map_dropLast]
      exact List.mem_map_of_mem member
    obtain ⟨start, rest, same⟩ := Text.joinWith_of_mem_dropLast inside ['/']
    refine ⟨start ++ front.toList, word.toList ++ '/' :: rest, ?_,
      matchesText_contents.mpr ⟨rest, rfl⟩⟩
    simp [same]

end

end PythonDocs.Glob
