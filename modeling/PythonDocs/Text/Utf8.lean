namespace PythonDocs.Text

abbrev Bytes := List UInt8

def encodeChar (c : Char) : Bytes := String.utf8EncodeChar c

def encode (text : List Char) : Bytes := text.flatMap encodeChar

def decode? (bytes : Bytes) : Option (List Char) :=
  go bytes.length bytes
where
  isTail (byte : UInt8) : Bool := 0x80 ≤ byte && byte < 0xC0
  bits (byte : UInt8) (low : Nat) : Nat := byte.toNat % low
  go : Nat → Bytes → Option (List Char)
    | _, [] => some []
    | 0, _ => none
    | fuel + 1, a :: rest =>
      if a < 0x80 then (go fuel rest).map (Char.ofNat a.toNat :: ·)
      else if a < 0xC2 then none
      else if a < 0xE0 then
        match rest with
        | b :: rest =>
          if isTail b then
            (go fuel rest).map (Char.ofNat (bits a 32 * 64 + bits b 64) :: ·)
          else none
        | _ => none
      else if a < 0xF0 then
        match rest with
        | b :: c :: rest =>
          let code := bits a 16 * 4096 + bits b 64 * 64 + bits c 64
          if isTail b && isTail c && 0x800 ≤ code && !(0xD800 ≤ code && code < 0xE000) then
            (go fuel rest).map (Char.ofNat code :: ·)
          else none
        | _ => none
      else if a < 0xF5 then
        match rest with
        | b :: c :: d :: rest =>
          let code := bits a 8 * 262144 + bits b 64 * 4096 + bits c 64 * 64 + bits d 64
          if isTail b && isTail c && isTail d && 0x10000 ≤ code && code ≤ 0x10FFFF then
            (go fuel rest).map (Char.ofNat code :: ·)
          else none
        | _ => none
      else none

def width (byte : UInt8) : Nat :=
  if byte < 0x80 then 1 else if byte < 0xE0 then 2 else if byte < 0xF0 then 3 else 4

/-- The first character of a text in bytes, and the bytes behind it. -/
def first? : Bytes → Option (Char × Bytes)
  | [] => none
  | byte :: rest =>
    match decode? ((byte :: rest).take (width byte)) with
    | some [c] => some (c, (byte :: rest).drop (width byte))
    | _ => none

end PythonDocs.Text
