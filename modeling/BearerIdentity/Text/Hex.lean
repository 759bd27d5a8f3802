import BearerIdentity.Bytes
import BearerIdentity.Text.Ascii

set_option autoImplicit false

namespace BearerIdentity.Hex

/-- Two digits for each byte, letters in lower case. -/
def encode (bytes : Bytes) : String :=
  String.ofList (bytes.flatMap fun byte =>
    [Nat.digitChar (byte.toNat / 16), Nat.digitChar (byte.toNat % 16)])

def decodeDigits : List Char → Option Bytes
  | [] => some []
  | [_] => none
  | high :: low :: rest => do
    let high ← Ascii.hexValue? high
    let low ← Ascii.hexValue? low
    let bytes ← decodeDigits rest
    return UInt8.ofNat (high * 16 + low) :: bytes

/-- The bytes, letters in either case. -/
def decode (text : String) : Option Bytes :=
  decodeDigits text.toList

end BearerIdentity.Hex
