import BearerIdentity.Crypto.Sha2

set_option autoImplicit false

namespace BearerIdentity.Hmac

/-- A key as one block: a longer one is hashed, a shorter one filled up with zeros. -/
def blockKey (variant : Sha2.Variant) (key : Bytes) : Bytes :=
  let short := if variant.blockBytes < key.length then Sha2.hash variant key else key
  short ++ List.replicate (variant.blockBytes - short.length) 0

def sign (variant : Sha2.Variant) (key message : Bytes) : Bytes :=
  let block := blockKey variant key
  let inner := Sha2.hash variant (block.map (· ^^^ 0x36) ++ message)
  Sha2.hash variant (block.map (· ^^^ 0x5c) ++ inner)

end BearerIdentity.Hmac
