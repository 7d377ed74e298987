import PythonDocs.Text.Utf8

namespace PythonDocs.Text

theorem isTail_eq_true_iff {byte : UInt8} :
    decode?.isTail byte = true ↔ 0x80 ≤ byte.toNat ∧ byte.toNat < 0xC0 := by
  simp [decode?.isTail, UInt8.le_iff_toNat_le, UInt8.lt_iff_toNat_lt]

/-- The bytes of a character, by their number. -/
inductive Encodes (letter : Char) : Bytes → Prop
  | one {a : UInt8} (low : a.toNat < 0x80) (same : a.toNat = letter.toNat) : Encodes letter [a]
  | two {a b : UInt8} (low : 0xC2 ≤ a.toNat) (high : a.toNat < 0xE0)
      (tail : decode?.isTail b = true)
      (same : a.toNat % 32 * 64 + b.toNat % 64 = letter.toNat) : Encodes letter [a, b]
  | three {a b c : UInt8} (low : 0xE0 ≤ a.toNat) (high : a.toNat < 0xF0)
      (tails : decode?.isTail b = true ∧ decode?.isTail c = true)
      (same : a.toNat % 16 * 4096 + b.toNat % 64 * 64 + c.toNat % 64 = letter.toNat)
      (long : 0x800 ≤ letter.toNat) : Encodes letter [a, b, c]
  | four {a b c d : UInt8} (low : 0xF0 ≤ a.toNat) (high : a.toNat < 0xF5)
      (tails : decode?.isTail b = true ∧ decode?.isTail c = true ∧ decode?.isTail d = true)
      (same : a.toNat % 8 * 262144 + b.toNat % 64 * 4096 + c.toNat % 64 * 64 + d.toNat % 64 =
        letter.toNat)
      (long : 0x10000 ≤ letter.toNat) : Encodes letter [a, b, c, d]

namespace Encodes

variable {letter : Char} {bytes : Bytes}

theorem go (encodes : Encodes letter bytes) (fuel : Nat) (rest : Bytes) :
    decode?.go (fuel + 1) (bytes ++ rest) = (decode?.go fuel rest).map (letter :: ·) := by
  have valid : letter.toNat < 0xD800 ∨ 0xDFFF < letter.toNat ∧ letter.toNat < 0x110000 :=
    letter.valid
  cases encodes with
  | @one a low same =>
    have small : a < 0x80 := UInt8.lt_iff_toNat_lt.mpr low
    simp only [List.cons_append, List.nil_append, decode?.go, small, same, Char.ofNat_toNat,
      ↓reduceIte]
  | @two a b low high tail same =>
    have first : ¬ a < 0x80 ∧ ¬ a < 0xC2 ∧ a < 0xE0 := by
      simp [UInt8.lt_iff_toNat_lt]
      omega
    simp only [List.cons_append, List.nil_append, decode?.go, decode?.bits, first, tail, same,
      Char.ofNat_toNat, ↓reduceIte]
  | @three a b c low high tails same long =>
    have first : ¬ a < 0x80 ∧ ¬ a < 0xC2 ∧ ¬ a < 0xE0 ∧ a < 0xF0 := by
      simp [UInt8.lt_iff_toNat_lt]
      omega
    have checked : (decode?.isTail b && decode?.isTail c && decide (0x800 ≤ letter.toNat) &&
        !(decide (0xD800 ≤ letter.toNat) && decide (letter.toNat < 0xE000))) = true := by
      simp [tails, long]
      omega
    simp only [List.cons_append, List.nil_append, decode?.go, decode?.bits, first, same, checked,
      Char.ofNat_toNat, ↓reduceIte]
  | @four a b c d low high tails same long =>
    have first : ¬ a < 0x80 ∧ ¬ a < 0xC2 ∧ ¬ a < 0xE0 ∧ ¬ a < 0xF0 ∧ a < 0xF5 := by
      simp [UInt8.lt_iff_toNat_lt]
      omega
    have checked : (decode?.isTail b && decode?.isTail c && decode?.isTail d &&
        decide (0x10000 ≤ letter.toNat) && decide (letter.toNat ≤ 0x10FFFF)) = true := by
      simp [tails, long]
      omega
    simp only [List.cons_append, List.nil_append, decode?.go, decode?.bits, first, same, checked,
      Char.ofNat_toNat, ↓reduceIte]

theorem width (encodes : Encodes letter bytes) :
    ∃ byte rest, bytes = byte :: rest ∧ width byte = bytes.length := by
  cases encodes with
  | @one a low same =>
    have first : a < 0x80 := UInt8.lt_iff_toNat_lt.mpr low
    exact ⟨a, [], rfl, by simp [Text.width, first]⟩
  | @two a b low high =>
    have first : ¬ a < 0x80 ∧ a < 0xE0 := by
      simp [UInt8.lt_iff_toNat_lt]
      omega
    exact ⟨a, [b], rfl, by simp [Text.width, first]⟩
  | @three a b c low high =>
    have first : ¬ a < 0x80 ∧ ¬ a < 0xE0 ∧ a < 0xF0 := by
      simp [UInt8.lt_iff_toNat_lt]
      omega
    exact ⟨a, [b, c], rfl, by simp [Text.width, first]⟩
  | @four a b c d low =>
    have first : ¬ a < 0x80 ∧ ¬ a < 0xE0 ∧ ¬ a < 0xF0 := by
      simp [UInt8.lt_iff_toNat_lt]
      omega
    exact ⟨a, [b, c, d], rfl, by simp [Text.width, first]⟩

theorem decode (encodes : Encodes letter bytes) : decode? bytes = some [letter] := by
  obtain ⟨byte, rest, rfl, -⟩ := encodes.width
  have decoded := encodes.go rest.length []
  rw [List.append_nil] at decoded
  rw [decode?, List.length_cons, decoded]
  cases rest.length <;> rfl

theorem first (encodes : Encodes letter bytes) (rest : Bytes) :
    first? (bytes ++ rest) = some (letter, rest) := by
  obtain ⟨byte, others, rfl, wide⟩ := encodes.width
  rw [List.cons_append, first?, wide, ← List.cons_append, List.take_left, encodes.decode,
    List.drop_left]

end Encodes

theorem toNat_ofNat_of_lt {code : Nat} (small : code < 256) : (UInt8.ofNat code).toNat = code := by
  simp [UInt8.toNat_ofNat', Nat.mod_eq_of_lt small]

theorem toNat_tail (code : Nat) : (UInt8.ofNat (code % 64 + 128)).toNat = code % 64 + 128 :=
  toNat_ofNat_of_lt (by omega)

theorem isTail_tail (code : Nat) : decode?.isTail (UInt8.ofNat (code % 64 + 128)) = true := by
  rw [isTail_eq_true_iff, toNat_tail]
  omega

theorem encodes_encodeChar (letter : Char) : Encodes letter (encodeChar letter) := by
  have valid : letter.toNat < 0xD800 ∨ 0xDFFF < letter.toNat ∧ letter.toNat < 0x110000 :=
    letter.valid
  have code : letter.val.toNat = letter.toNat := rfl
  unfold encodeChar String.utf8EncodeChar
  rw [code]
  dsimp only
  split
  · have first : (UInt8.ofNat letter.toNat).toNat = letter.toNat := toNat_ofNat_of_lt (by omega)
    exact .one (by omega) first
  · split
    · have first : (UInt8.ofNat (letter.toNat / 64 % 32 + 192)).toNat =
          letter.toNat / 64 + 192 := by
        rw [toNat_ofNat_of_lt (by omega)]
        omega
      refine .two (by omega) (by omega) (isTail_tail _) ?_
      rw [first, toNat_tail]
      omega
    · split
      · have first : (UInt8.ofNat (letter.toNat / 4096 % 16 + 224)).toNat =
            letter.toNat / 4096 + 224 := by
          rw [toNat_ofNat_of_lt (by omega)]
          omega
        refine .three (by omega) (by omega) ⟨isTail_tail _, isTail_tail _⟩ ?_ (by omega)
        rw [first, toNat_tail, toNat_tail]
        omega
      · have first : (UInt8.ofNat (letter.toNat / 262144 % 8 + 240)).toNat =
            letter.toNat / 262144 + 240 := by
          rw [toNat_ofNat_of_lt (by omega)]
          omega
        refine .four (by omega) (by omega) ⟨isTail_tail _, isTail_tail _, isTail_tail _⟩ ?_
          (by omega)
        rw [first, toNat_tail, toNat_tail, toNat_tail]
        omega

theorem encodeChar_ne_nil (letter : Char) : encodeChar letter ≠ [] :=
  String.utf8EncodeChar_ne_nil

end PythonDocs.Text
