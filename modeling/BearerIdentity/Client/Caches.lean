import BearerIdentity.Key.Source

set_option autoImplicit false

namespace BearerIdentity

structure Caches where
  tokens : Cache SignedToken
  keys : Cache KeySet

namespace Caches

def empty : Caches where
  tokens := Cache.lasting
  keys := KeySource.emptyCache

/-- Gives up the keys to free memory. The token is kept. -/
def reclaim? (caches : Caches) : Option Caches :=
  caches.keys.reclaim?.map fun keys => { caches with keys }

variable {ε α : Type}

def onKeys (operation : Operation ε (Cache KeySet) α) : Operation ε Caches α :=
  Operation.onPart keys (fun keys caches => { caches with keys }) operation

def onTokens (operation : Operation ε (Cache SignedToken × Cache KeySet) α) :
    Operation ε Caches α :=
  Operation.onPart (fun caches => (caches.tokens, caches.keys)) (fun (tokens, keys) _ => ⟨tokens, keys⟩)
    operation

end Caches

end BearerIdentity
