import PythonDocs.Proofs.Json.Strings

namespace PythonDocs.Json

mutual

def isTextual : Json → Bool
  | .null | .bool _ | .string _ => true
  | .number _ | .broken => false
  | .array items => areTextual items
  | .object entries => haveTextual entries

def areTextual : List Json → Bool
  | [] => true
  | item :: rest => item.isTextual && areTextual rest

def haveTextual : List (String × Json) → Bool
  | [] => true
  | (_, value) :: rest => value.isTextual && haveTextual rest

end

def AreGaps (text : List Char) : Prop := ∀ c ∈ text, isGap c = true

structure Style.IsLoose (style : Style) : Prop where
  colon : ∃ gaps, style.colon = ':' :: gaps ∧ AreGaps gaps
  line : ∀ depth, AreGaps (style.line depth)

theorem isLoose_compact : Style.compact.IsLoose := ⟨⟨[], rfl, nofun⟩, fun _ => nofun⟩

theorem isLoose_pretty : Style.pretty.IsLoose := by
  refine ⟨⟨[' '], rfl, by simp [AreGaps, isGap]⟩, fun depth c member => ?_⟩
  rcases List.mem_cons.mp member with rfl | blank
  · rfl
  · rw [List.eq_of_mem_replicate blank]
    rfl

theorem skipGap_append {gaps : List Char} (areGaps : AreGaps gaps) (text : List Char) :
    skipGap (gaps ++ text) = skipGap text := List.dropWhile_append_of_pos areGaps

theorem skipGap_cons {c : Char} (solid : isGap c = false) (text : List Char) :
    skipGap (c :: text) = c :: text := by
  rw [skipGap, List.dropWhile_cons_of_neg (by simp [solid])]

def starts : List Char := ['"', '[', '\x7b', 't', 'f', 'n']

theorem encode_starts (style : Style) (depth : Nat) {value : Json}
    (textual : value.isTextual = true) :
    ∃ c ∈ starts, ∃ rest, value.encode style depth = c :: rest := by
  cases value with
  | null => exact ⟨'n', by decide, _, rfl⟩
  | bool flag => cases flag <;> exact ⟨_, by decide, _, rfl⟩
  | string text => exact ⟨'"', by decide, _, rfl⟩
  | array items => cases items <;> exact ⟨'[', by decide, _, rfl⟩
  | object entries => cases entries <;> exact ⟨'\x7b', by decide, _, rfl⟩
  | number | broken => cases textual

section

variable {fuel : Nat} {text rest more after : List Char} {item : Json}

theorem readItems_last (read : readValue fuel text = some (item, rest))
    (closed : skipGap rest = ']' :: after) : readItems (fuel + 1) text = some ([item], after) := by
  rw [readItems, read]
  simp only [closed]

theorem readItems_more (read : readValue fuel text = some (item, rest))
    (further : skipGap rest = ',' :: more) :
    readItems (fuel + 1) text =
      (readItems fuel (skipGap more)).map fun (items, rest) => (item :: items, rest) := by
  rw [readItems, read]
  simp only [further]

theorem readValue_array (opened : skipGap rest = more) (other : more.head? ≠ some ']') :
    readValue (fuel + 1) ('[' :: rest) =
      (readItems fuel more).map fun (items, rest) => (.array items, rest) := by
  rw [readValue, opened]
  split
  · exact absurd rfl other
  · rfl

theorem readValue_object (opened : skipGap rest = more) (other : more.head? ≠ some '\x7d') :
    readValue (fuel + 1) ('\x7b' :: rest) =
      (readEntries fuel more).map fun (entries, rest) => (ofNamed entries, rest) := by
  rw [readValue, opened]
  split
  · exact absurd rfl other
  · rfl

end

def named (entry : String × Json) : Option String × Json := (some entry.1, entry.2)

theorem ofNamed_named (entries : List (String × Json)) :
    ofNamed (entries.map named) = .object entries := by
  have whole : (entries.map named).mapM (fun entry => entry.1.map (·, entry.2)) = some entries := by
    induction entries with
    | nil => rfl
    | cons entry rest ih => simp [List.mapM_cons, named, ih]
  unfold ofNamed
  split
  · rename_i found read
    exact congrArg object (Option.some.inj (read.symm.trans whole))
  · rename_i read
    cases read.symm.trans whole

def encodeListed (style : Style) (depth : Nat) : List Json → List Char
  | [] => []
  | item :: rest => item.encode style depth ++ encodeItems style depth rest

def encodeEntry (style : Style) (depth : Nat) (entry : String × Json) : List Char :=
  encodeString entry.1 ++ style.colon ++ entry.2.encode style depth

def encodeNamed (style : Style) (depth : Nat) : List (String × Json) → List Char
  | [] => []
  | entry :: rest => encodeEntry style depth entry ++ encodeEntries style depth rest

variable {style : Style}

theorem encodeItems_cons (depth : Nat) (item : Json) (rest : List Json) :
    encodeItems style depth (item :: rest) =
      ',' :: (style.line depth ++ encodeListed style depth (item :: rest)) := by
  simp [encodeItems, encodeListed]

theorem encodeEntries_cons (depth : Nat) (entry : String × Json) (rest : List (String × Json)) :
    encodeEntries style depth (entry :: rest) =
      ',' :: (style.line depth ++ encodeNamed style depth (entry :: rest)) := by
  simp [encodeEntries, encodeNamed, encodeEntry]

theorem encode_array (depth : Nat) (item : Json) (rest : List Json) :
    encode style depth (.array (item :: rest)) =
      '[' :: (style.line (depth + 1) ++ (encodeListed style (depth + 1) (item :: rest) ++
        (style.line depth ++ [']']))) := by
  simp [encode, encodeListed]

theorem encode_object (depth : Nat) (entry : String × Json) (rest : List (String × Json)) :
    encode style depth (.object (entry :: rest)) =
      '\x7b' :: (style.line (depth + 1) ++ (encodeNamed style (depth + 1) (entry :: rest) ++
        (style.line depth ++ ['\x7d']))) := by
  simp [encode, encodeNamed, encodeEntry]

structure Opens (text : List Char) : Prop where
  solid : skipGap text = text
  array : text.head? ≠ some ']'
  object : text.head? ≠ some '\x7d'

theorem opens_encode (depth : Nat) {value : Json} (textual : value.isTextual = true)
    (rest : List Char) : Opens (value.encode style depth ++ rest) := by
  obtain ⟨c, start, tail, same⟩ := encode_starts style depth textual
  have solid : ∀ c ∈ starts, isGap c = false ∧ c ≠ ']' ∧ c ≠ '\x7d' := by
    simp [starts, isGap]
  obtain ⟨noGap, array, object⟩ := solid c start
  rw [same, List.cons_append]
  exact ⟨skipGap_cons noGap _, by simpa using array, by simpa using object⟩

theorem opens_listed (style : Style) (depth : Nat) {item : Json} {items : List Json}
    (textual : areTextual (item :: items) = true) (rest : List Char) :
    Opens (encodeListed style depth (item :: items) ++ rest) := by
  rw [encodeListed, List.append_assoc]
  exact opens_encode depth (Bool.and_eq_true_iff.mp textual).1 _

theorem opens_named (style : Style) (depth : Nat) (entry : String × Json)
    (entries : List (String × Json)) (rest : List Char) :
    Opens (encodeNamed style depth (entry :: entries) ++ rest) := by
  have start : encodeNamed style depth (entry :: entries) ++ rest = '"' :: _ := rfl
  rw [start]
  exact ⟨skipGap_cons rfl _, by simp, by simp⟩

theorem Opens.skip {text gaps : List Char} (opens : Opens text) (areGaps : AreGaps gaps) :
    skipGap (gaps ++ text) = text := by
  rw [skipGap_append areGaps, opens.solid]

theorem skipGap_close {gaps : List Char} (areGaps : AreGaps gaps) {close : Char}
    (solid : isGap close = false) (rest : List Char) :
    skipGap (gaps ++ close :: rest) = close :: rest := by
  rw [skipGap_append areGaps, skipGap_cons solid]

theorem readEntries_encodeEntry (loose : style.IsLoose) (depth : Nat) (name : String)
    {value : Json} (textual : value.isTextual = true) {fuel : Nat} {rest : List Char}
    (read : readValue fuel (value.encode style depth ++ rest) = some (value, rest)) :
    readEntries (fuel + 1) (encodeEntry style depth (name, value) ++ rest) =
      match skipGap rest with
      | '\x7d' :: rest => some ([named (name, value)], rest)
      | ',' :: rest =>
        (readEntries fuel (skipGap rest)).map fun (entries, rest) =>
          (named (name, value) :: entries, rest)
      | _ => none := by
  obtain ⟨gaps, colon, areGaps⟩ := loose.colon
  have parts : encodeEntry style depth (name, value) ++ rest =
      '"' :: (name.toList.flatMap encodeChar ++
        '"' :: ':' :: (gaps ++ (value.encode style depth ++ rest))) := by
    simp [encodeEntry, encodeString, colon]
  rw [parts, readEntries, readString_encodeString]
  simp only [skipGap_cons (show isGap ':' = false from rfl),
    (opens_encode depth textual rest).skip areGaps, read]
  rfl

mutual

theorem readValue_encode (loose : style.IsLoose) (depth : Nat) :
    (value : Json) → value.isTextual = true → (fuel : Nat) →
      (value.encode style depth).length < fuel → (rest : List Char) →
        readValue fuel (value.encode style depth ++ rest) = some (value, rest)
  | _, _, 0, short, _ => absurd short (Nat.not_lt_zero _)
  | .null, _, fuel + 1, _, rest => rfl
  | .bool true, _, fuel + 1, _, rest => rfl
  | .bool false, _, fuel + 1, _, rest => rfl
  | .string text, _, fuel + 1, _, rest => by
    have read := readString_encodeString text rest
    simp [encode, encodeAtom, encodeString, readValue, read]
  | .array [], _, fuel + 1, _, rest => rfl
  | .array (item :: items), textual, fuel + 1, short, rest => by
    rw [encode_array] at short ⊢
    simp only [List.cons_append, List.append_assoc, List.nil_append]
    have opens := opens_listed style (depth + 1) textual (style.line depth ++ ']' :: rest)
    rw [readValue_array (opens.skip (loose.line _)) opens.array,
      readItems_encode loose (depth + 1) (item :: items) textual (List.cons_ne_nil _ _) fuel _ _
        (loose.line depth)]
    · rfl
    · simp at short
      omega
  | .object [], _, fuel + 1, _, rest => rfl
  | .object (entry :: entries), textual, fuel + 1, short, rest => by
    rw [encode_object] at short ⊢
    simp only [List.cons_append, List.append_assoc, List.nil_append]
    have opens := opens_named style (depth + 1) entry entries
      (style.line depth ++ '\x7d' :: rest)
    rw [readValue_object (opens.skip (loose.line _)) opens.object,
      readEntries_encode loose (depth + 1) (entry :: entries) textual (List.cons_ne_nil _ _) fuel _
        _ (loose.line depth)]
    · exact congrArg (fun value => some (value, rest)) (ofNamed_named (entry :: entries))
    · simp at short
      omega
  | .number _, textual, _ + 1, _, _ => nomatch textual
  | .broken, textual, _ + 1, _, _ => nomatch textual

theorem readItems_encode (loose : style.IsLoose) (depth : Nat) :
    (items : List Json) → areTextual items = true → items ≠ [] → (fuel : Nat) →
      (encodeListed style depth items).length + 1 < fuel → (gaps : List Char) → AreGaps gaps →
        (rest : List Char) →
          readItems fuel (encodeListed style depth items ++ (gaps ++ ']' :: rest)) =
            some (items, rest)
  | _, _, _, 0, short, _, _, _ => absurd short (Nat.not_lt_zero _)
  | [], _, filled, _, _, _, _, _ => absurd rfl filled
  | [item], textual, _, fuel + 1, short, gaps, areGaps, rest => by
    have single : encodeListed style depth [item] = item.encode style depth := by
      simp [encodeListed, encodeItems]
    rw [single] at short ⊢
    exact readItems_last (readValue_encode loose depth item (Bool.and_eq_true_iff.mp textual).1 fuel
      (by omega) _) (skipGap_close areGaps rfl rest)
  | item :: next :: items, textual, _, fuel + 1, short, gaps, areGaps, rest => by
    obtain ⟨own, others⟩ := Bool.and_eq_true_iff.mp textual
    obtain ⟨c, -, tail, start⟩ := encode_starts style depth own
    rw [encodeListed, encodeItems_cons] at short ⊢
    simp only [List.cons_append, List.append_assoc]
    have opens := opens_listed style depth others (gaps ++ ']' :: rest)
    have length := congrArg List.length start
    simp only [List.length_append, List.length_cons] at short length
    rw [readItems_more (readValue_encode loose depth item own fuel (by omega) _)
      (skipGap_cons rfl _), opens.skip (loose.line depth),
      readItems_encode loose depth (next :: items) others (List.cons_ne_nil _ _) fuel (by omega)
        gaps areGaps]
    rfl

theorem readEntries_encode (loose : style.IsLoose) (depth : Nat) :
    (entries : List (String × Json)) → haveTextual entries = true → entries ≠ [] → (fuel : Nat) →
      (encodeNamed style depth entries).length + 1 < fuel → (gaps : List Char) → AreGaps gaps →
        (rest : List Char) →
          readEntries fuel (encodeNamed style depth entries ++ (gaps ++ '\x7d' :: rest)) =
            some (entries.map named, rest)
  | _, _, _, 0, short, _, _, _ => absurd short (Nat.not_lt_zero _)
  | [], _, filled, _, _, _, _, _ => absurd rfl filled
  | [(name, value)], textual, _, fuel + 1, short, gaps, areGaps, rest => by
    have own := (Bool.and_eq_true_iff.mp textual).1
    have single : encodeNamed style depth [(name, value)] =
        encodeEntry style depth (name, value) := by simp [encodeNamed, encodeEntries]
    have shorter : (value.encode style depth).length < fuel := by
      simp [single, encodeEntry] at short
      omega
    rw [single, readEntries_encodeEntry loose depth name own
      (readValue_encode loose depth value own fuel shorter _), skipGap_close areGaps rfl]
    rfl
  | (name, value) :: next :: entries, textual, _, fuel + 1, short, gaps, areGaps, rest => by
    obtain ⟨own, others⟩ := Bool.and_eq_true_iff.mp textual
    rw [encodeNamed, encodeEntries_cons] at short ⊢
    have shorter : (value.encode style depth).length < fuel ∧
        (encodeNamed style depth (next :: entries)).length + 1 < fuel := by
      simp [encodeEntry, encodeString] at short
      omega
    rw [List.append_assoc, List.cons_append, List.append_assoc,
      readEntries_encodeEntry loose depth name own
        (readValue_encode loose depth value own fuel shorter.1 _), skipGap_cons rfl]
    simp only
    rw [(opens_named style depth next entries _).skip (loose.line depth),
      readEntries_encode loose depth (next :: entries) others (List.cons_ne_nil _ _) fuel shorter.2
        gaps areGaps]
    rfl

end

theorem read?_encode (loose : style.IsLoose) {value : Json} (textual : value.isTextual = true)
    (gaps : List Char) (areGaps : AreGaps gaps) :
    read? (.ofList (value.encode style 0 ++ gaps)) = some value := by
  have short : (value.encode style 0).length < (value.encode style 0 ++ gaps).length + 1 := by
    rw [List.length_append]
    omega
  have ended : skipGap gaps = [] := by
    have skipped := skipGap_append areGaps []
    rwa [List.append_nil] at skipped
  simp only [read?, String.length_ofList, String.toList_ofList,
    (opens_encode 0 textual gaps).solid, readValue_encode loose 0 value textual _ short, ended,
    ↓reduceIte]

theorem read?_compact {value : Json} (textual : value.isTextual = true) :
    read? value.compact = some value := by
  have read := read?_encode isLoose_compact textual [] nofun
  rwa [List.append_nil] at read

theorem read?_pretty {value : Json} (textual : value.isTextual = true) :
    read? value.pretty = some value ∧ read? (value.pretty ++ "\n") = some value := by
  constructor
  · have read := read?_encode isLoose_pretty textual [] nofun
    rwa [List.append_nil] at read
  · have read := read?_encode isLoose_pretty textual ['\n'] (by simp [AreGaps, isGap])
    rwa [String.ofList_append] at read

end PythonDocs.Json
