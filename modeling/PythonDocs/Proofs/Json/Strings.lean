import PythonDocs.Json.Printer
import PythonDocs.Json.Reader

namespace PythonDocs.Json

theorem hexValue?_hexDigit : ∀ digit < 16, Text.hexValue? (Text.hexDigit digit) = some digit := by
  decide

def readUnitsAfter (unit : Nat) (text : List Char) : Option (List Nat × List Char) :=
  (readUnits text).map fun (units, rest) => (unit :: units, rest)

theorem readUnits_escaped {letter c : Char} (other : letter ≠ 'u')
    (escape : escaped? letter = some c) (rest : List Char) :
    readUnits ('\\' :: letter :: rest) = readUnitsAfter c.toNat rest := by
  rw [readUnits, escape]
  · cases given : readUnits rest <;> simp [readUnitsAfter, given]
  · simp [other]

theorem readUnits_unit {a b c d : Char} {unit : Nat} (given : unit? a b c d = some unit)
    (rest : List Char) :
    readUnits ('\\' :: 'u' :: a :: b :: c :: d :: rest) = readUnitsAfter unit rest := by
  rw [readUnits, given]
  cases further : readUnits rest <;> simp [readUnitsAfter, further]

theorem readUnits_plain {c : Char} (noQuote : c ≠ '"') (noEscape : c ≠ '\\')
    (printed : ¬ c.toNat < 32) (rest : List Char) :
    readUnits (c :: rest) = readUnitsAfter c.toNat rest := by
  rw [readUnits, if_neg printed, readUnitsAfter]
  all_goals simp [noQuote, noEscape]

theorem encodeChar_cases (c : Char) :
    (∃ letter, encodeChar c = ['\\', letter] ∧ letter ≠ 'u' ∧ escaped? letter = some c) ∨
    (c.toNat < 32 ∧ encodeChar c =
      ['\\', 'u', '0', '0', Text.hexDigit (c.toNat / 16), Text.hexDigit (c.toNat % 16)]) ∨
    (c ≠ '"' ∧ c ≠ '\\' ∧ ¬ c.toNat < 32 ∧ encodeChar c = [c]) := by
  by_cases escape : c ∈ ['"', '\\', '\x08', '\x0c', '\n', '\r', '\t']
  · simp only [List.mem_cons, List.not_mem_nil, or_false] at escape
    left
    rcases escape with rfl | rfl | rfl | rfl | rfl | rfl | rfl <;>
      exact ⟨_, rfl, by decide, by decide⟩
  · simp only [List.mem_cons, List.not_mem_nil, or_false, not_or] at escape
    right
    by_cases control : c.toNat < 32
    · exact .inl ⟨control, by simp [encodeChar, escape, control]⟩
    · exact .inr ⟨escape.1, escape.2.1, control, by simp [encodeChar, escape, control]⟩

theorem readUnits_encodeChar (c : Char) (rest : List Char) :
    readUnits (encodeChar c ++ rest) = readUnitsAfter c.toNat rest := by
  rcases encodeChar_cases c with
    ⟨letter, given, other, escape⟩ | ⟨control, given⟩ | ⟨noQuote, noEscape, printed, given⟩
  · rw [given]
    exact readUnits_escaped other escape rest
  · rw [given]
    refine readUnits_unit ?_ rest
    have zero : Text.hexValue? '0' = some 0 := by decide
    have high := hexValue?_hexDigit (c.toNat / 16) (by omega)
    have low := hexValue?_hexDigit (c.toNat % 16) (by omega)
    simp only [unit?, zero, high, low, Option.bind_eq_bind, Option.bind_some, Option.pure_def,
      Option.some.injEq]
    omega
  · rw [given]
    exact readUnits_plain noQuote noEscape printed rest

theorem readUnits_text (text rest : List Char) :
    readUnits (text.flatMap encodeChar ++ '"' :: rest) = some (text.map Char.toNat, rest) := by
  induction text with
  | nil => rw [List.flatMap_nil, List.nil_append, readUnits, List.map_nil]
  | cons c text ih =>
    rw [List.flatMap_cons, List.append_assoc, readUnits_encodeChar, readUnitsAfter, ih]
    rfl

theorem not_surrogate (c : Char) : isHigh c.toNat = false ∧ isLow c.toNat = false := by
  have valid : c.toNat < 0xD800 ∨ 0xDFFF < c.toNat ∧ c.toNat < 0x110000 := c.valid
  simp only [isHigh, isLow, Bool.and_eq_false_iff, decide_eq_false_iff_not]
  omega

theorem joinPairs_text (text : List Char) : joinPairs none (text.map Char.toNat) = some text := by
  induction text with
  | nil => rfl
  | cons c text ih =>
    obtain ⟨high, low⟩ := not_surrogate c
    rw [List.map_cons, joinPairs, high, low, ih, Char.ofNat_toNat]
    rfl

theorem readString_encodeString (text : String) (rest : List Char) :
    readString (text.toList.flatMap encodeChar ++ '"' :: rest) = some (some text, rest) := by
  simp only [readString, readUnits_text, Option.map_some, joinPairs_text, String.ofList_toList]

end PythonDocs.Json
