import PythonDocs.Text.Blank
import PythonDocs.Text.Identifier

namespace PythonDocs.Text

theorem Ranges.has_eq_false_of_apart {first second : Ranges} {c : Char}
    (apart : ∀ left ∈ first, ∀ right ∈ second, left.2 < right.1 ∨ right.2 < left.1)
    (member : first.has c = true) : second.has c = false := by
  obtain ⟨left, inside, low, high⟩ := Ranges.has_eq_true_iff.mp member
  rw [Bool.eq_false_iff]
  intro both
  obtain ⟨right, other, below, above⟩ := Ranges.has_eq_true_iff.mp both
  have := apart left inside right other
  omega

theorem isBlank_of_isIdentifierPart {c : Char} (part : isIdentifierPart c = true) :
    isBlank c = false := by
  have table : ∀ n < 128, isIdentifierPart (Char.ofNat n) = true → isBlank (Char.ofNat n) = false :=
    by decide
  by_cases ascii : c.toNat < 128
  · rw [← Char.ofNat_toNat c] at part ⊢
    exact table c.toNat ascii part
  · rw [isIdentifierPart, if_neg ascii, Bool.or_eq_true] at part
    rcases part with start | extra
    · exact Ranges.has_eq_false_of_apart (by decide +kernel) start
    · exact Ranges.has_eq_false_of_apart (by decide +kernel) extra

def IsIdentifier : List Char → Prop
  | [] => False
  | c :: rest => isIdentifierStart c = true ∧ ∀ d ∈ rest, isIdentifierPart d = true

namespace IsIdentifier

variable {word : List Char} {c : Char}

theorem part (identifier : IsIdentifier word) (member : c ∈ word) : isIdentifierPart c = true := by
  cases word with
  | nil => cases member
  | cons first rest =>
    rcases List.mem_cons.mp member with rfl | member
    · exact isIdentifierPart_of_isIdentifierStart identifier.1
    · exact identifier.2 c member

theorem ne_nil (identifier : IsIdentifier word) : word ≠ [] := by
  rintro rfl
  exact identifier

theorem not_mem (identifier : IsIdentifier word) (other : isIdentifierPart c = false) :
    c ∉ word := by
  intro member
  rw [identifier.part member] at other
  cases other

theorem clean (identifier : IsIdentifier word) (member : c ∈ word) :
    isBlank c = false ∧ c ≠ '\\' ∧ c ≠ '.' := by
  have part := identifier.part member
  refine ⟨isBlank_of_isIdentifierPart part, ?_, ?_⟩
  · rintro rfl
    exact absurd part (by decide)
  · rintro rfl
    exact absurd part (by decide)

end IsIdentifier

end PythonDocs.Text
