import BearerIdentity.Cache.Renewal
import BearerIdentity.Http.Exchange
import BearerIdentity.Key.KeySet
import BearerIdentity.Key.Signature
import BearerIdentity.Token.Signed

set_option autoImplicit false

namespace BearerIdentity

structure KeySource where
  endpoint : Url
  deriving DecidableEq, Repr

namespace KeySource

/-- The age in milliseconds at which keys are fetched again. -/
def maxAge : Int := 300000

/-- The age in milliseconds below which keys are not fetched again for an unknown key id. -/
def cooldown : Int := 30000

def emptyCache : Cache KeySet :=
  Cache.ageing maxAge

def describe (source : KeySource) : String :=
  Rendering.record "KeySetResource" [("endpoint", Rendering.quoted source.endpoint.text)]

def describeCheck (cache : Cache KeySet) : String :=
  Rendering.record "SignatureVerifier" [("keys", Renewal.describe cache)]

variable {σ : Type}

def fetch (source : KeySource) : Operation Error σ KeySet := do
  let document ← Exchange.getJson Json.decodeValue source.endpoint
  (Operation.ofExcept (KeySet.ofDocument document)).mapError .verification

def renewal (source : KeySource) : Renewal σ KeySet where
  kind := .keySetRefresh
  isStale := fun keys now => .ok !keys.hasValidKey now
  fetch := source.fetch

/-- Runs on the cache of keys, whose failures make signatures uncheckable. -/
def onCache {α : Type} (operation : Operation Error (Cache KeySet × Unit) α) :
    Operation VerifyError (Cache KeySet) α :=
  operation.alone.mapError fun error => .keySetUnavailable (.refreshFailed error.message)

def keys (source : KeySource) : Operation VerifyError (Cache KeySet) KeySet :=
  onCache source.renewal.get

def newKeys (source : KeySource) : Operation VerifyError (Cache KeySet) KeySet :=
  onCache source.renewal.renew

def find (source : KeySource) (kid : String) : Operation VerifyError (Cache KeySet) WebKey := do
  let keys ← source.keys
  let now ← Operation.now
  match keys.find? kid now with
  | some key => Operation.succeed key
  | none =>
    let cache ← Operation.memory
    if now.since cache.updatedAt < cooldown then Operation.fail (.unknownKey kid)
    else
      let keys ← source.newKeys
      Operation.ofOption (.unknownKey kid) (keys.find? kid now)

def checkWith (token : SignedToken) (kid : String) (algorithm : Algorithm) (key : WebKey) :
    Except VerifyError Unit := do
  let material ← key.verificationKey kid algorithm
  if Signature.isValid token.raw algorithm material then .ok () else .error .signature

def check (source : KeySource) (token : SignedToken) :
    Operation VerifyError (Cache KeySet) Unit := do
  let kid ← Operation.ofOption .missingKeyId token.header.keyId
  let algorithm ← Operation.ofOption (.unsupportedAlgorithm token.header.algorithm)
    (Algorithm.ofName? token.header.algorithm)
  let key ← source.find kid
  Operation.ofExcept (checkWith token kid algorithm key)

end KeySource

end BearerIdentity
