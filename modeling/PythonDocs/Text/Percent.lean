import PythonDocs.Text.Hex
import PythonDocs.Text.Utf8

namespace PythonDocs.Text

def percentByte (byte : UInt8) : List Char :=
  ['%', upperHexDigit (byte.toNat / 16), upperHexDigit (byte.toNat % 16)]

def isPrintable (c : Char) : Bool := 32 ≤ c.toNat && c.toNat < 127

def percentEncoded (reserved : List Char) (text : List Char) : List Char :=
  text.flatMap fun c =>
    if isPrintable c && !reserved.contains c then [c] else (encodeChar c).flatMap percentByte

def percentDecoded : List Char → Bytes
  | [] => []
  | '%' :: a :: b :: rest =>
    match hexValue? a, hexValue? b with
    | some high, some low => .ofNat (16 * high + low) :: percentDecoded rest
    | _, _ => 0x25 :: percentDecoded (a :: b :: rest)
  | c :: rest => encodeChar c ++ percentDecoded rest

end PythonDocs.Text
