import BearerIdentity.Text.Ascii
import BearerIdentity.Text.Utf8

set_option autoImplicit false

namespace BearerIdentity.Percent

def hexDigit (value : Nat) : Char :=
  if value < 10 then Char.ofNat (48 + value) else Char.ofNat (55 + value)

def encodeByte (byte : UInt8) : List Char :=
  ['%', hexDigit (byte.toNat / 16), hexDigit (byte.toNat % 16)]

/-- Encodes the characters of a class and everything outside ASCII. -/
def encode (isEncoded : Char → Bool) (text : List Char) : List Char :=
  text.flatMap fun c =>
    if c.toNat < 0x80 && !isEncoded c then [c] else (Utf8.encodeChar c).flatMap encodeByte

/-- Replaces every percent sign that two hexadecimal digits follow. -/
def decode : Bytes → Bytes
  | [] => []
  | byte :: rest =>
    if byte = 37 then
      match rest with
      | high :: low :: after =>
        match Ascii.hexValue? (Char.ofNat high.toNat), Ascii.hexValue? (Char.ofNat low.toNat) with
        | some h, some l => UInt8.ofNat (h * 16 + l) :: decode after
        | _, _ => byte :: decode (high :: low :: after)
      | rest => byte :: decode rest
    else byte :: decode rest

def isControl (c : Char) : Bool :=
  c.toNat < 0x20 || c.toNat = 0x7f

def inFragment (c : Char) : Bool :=
  isControl c || c = ' ' || c = '"' || c = '<' || c = '>' || c = '\x60'

def inQuery (c : Char) : Bool :=
  isControl c || c = ' ' || c = '"' || c = '#' || c = '<' || c = '>'

def inSpecialQuery (c : Char) : Bool :=
  inQuery c || c = '\''

def inPath (c : Char) : Bool :=
  inFragment c || c = '#' || c = '?' || c = '\x7b' || c = '\x7d'

def inUserinfo (c : Char) : Bool :=
  inPath c || c = '/' || c = ':' || c = ';' || c = '=' || c = '@' || c = '[' || c = '\\'
    || c = ']' || c = '^' || c = '|'

end BearerIdentity.Percent
