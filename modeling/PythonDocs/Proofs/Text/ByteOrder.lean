import Mathlib.Data.String.Basic
import PythonDocs.Proofs.Text.Utf8

namespace PythonDocs.Text

theorem Encodes.lt_append {first second : Char} {bytes others : Bytes}
    (left : Encodes first bytes) (right : Encodes second others) (less : first < second)
    (rest more : Bytes) : bytes ++ rest < others ++ more := by
  have numbers : first.toNat < second.toNat := less
  cases left <;> cases right <;>
    simp only [List.cons_append, List.nil_append, List.cons_lt_cons_iff,
      UInt8.lt_iff_toNat_lt, ← UInt8.toNat_inj, isTail_eq_true_iff] at * <;>
    grind

theorem encode_lt {first second : List Char} (less : first < second) :
    encode first < encode second := by
  induction first generalizing second with
  | nil =>
    cases second with
    | nil => exact absurd less (List.not_lt_nil _)
    | cons d others =>
      obtain ⟨byte, bytes, encoded⟩ := List.exists_cons_of_ne_nil (encodeChar_ne_nil d)
      rw [encode, encode, List.flatMap_nil, List.flatMap_cons, encoded, List.cons_append]
      exact List.nil_lt_cons _ _
  | cons c rest ih =>
    cases second with
    | nil => exact absurd less (List.not_lt_nil _)
    | cons d others =>
      rw [encode, encode, List.flatMap_cons, List.flatMap_cons]
      rcases List.cons_lt_cons_iff.mp less with before | ⟨rfl, behind⟩
      · exact (encodes_encodeChar c).lt_append (encodes_encodeChar d) before _ _
      · exact List.append_left_lt (ih behind)

end PythonDocs.Text
