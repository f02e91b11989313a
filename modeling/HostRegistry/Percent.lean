import HostRegistry.Json.Reader

/-!
# Percent encoding

A byte may be written as a percent sign and two hexadecimal digits. Decoding leaves a percent sign
without two digits as it is.
-/

namespace HostRegistry.Percent

def decode : Bytes → Bytes
  | 0x25 :: a :: b :: rest =>
    match Json.hexValue? a, Json.hexValue? b with
    | some high, some low => (high * 16 + low).toUInt8 :: decode rest
    | _, _ => 0x25 :: decode (a :: b :: rest)
  | b :: rest => b :: decode rest
  | [] => []

/-- A hexadecimal digit in upper case. -/
def upperDigit (n : UInt8) : UInt8 := if n < 10 then 0x30 + n else 0x37 + n

/-- Escapes the bytes of a set. -/
def encode (escaped : UInt8 → Bool) (bytes : Bytes) : Bytes :=
  bytes.flatMap fun b =>
    if escaped b then [0x25, upperDigit (b >>> 4), upperDigit (b &&& 0x0F)] else [b]

end HostRegistry.Percent
