import BearerIdentity.Client.Access
import BearerIdentity.Proofs.Client.Configured
import BearerIdentity.Proofs.Issuer.Check

set_option autoImplicit false

namespace BearerIdentity

open Operation

namespace TokenResource

variable {resource : TokenResource} {since : Environment}

theorem fetch_keeps : Keeps (resource.issuer.Tended since) resource.fetch :=
  .bind (Exchange.postForm_keeps (Issuer.lasting_tended since)) fun _ => .bind (.ofExcept _) fun _ =>
    .bind (.mapError (Issuer.check_keeps _)) fun _ => .succeed _

/-- Of the tokens that are fetched nothing is said here, only of the keys they are checked with. -/
theorem fetches : resource.renewal.Fetches (fun _ _ => True) (resource.issuer.Tended since) where
  keeps := fetch_keeps
  proceeds := fun tended => (fetch_keeps _ _ tended.1.tended).2
  yields := fun _ _ => trivial
  lasting := Issuer.lasting_tended since
  yields_lasting := fun _ _ _ _ _ => trivial

end TokenResource

namespace ClientIdentity

def Tended (identity : ClientIdentity) (since : Environment) (caches : Caches)
    (environment : Environment) : Prop :=
  identity.issuer.Tended since caches.keys environment

variable {identity : ClientIdentity} {since : Environment} {ε α : Type}

theorem lasting_tended : Lasting (identity.Tended since) :=
  fun _ _ _ tended proceeds => Issuer.lasting_tended since _ _ _ tended proceeds

theorem onKeys_keeps {operation : Operation ε (Cache KeySet) α}
    (keeps : Keeps (identity.issuer.Tended since) operation) :
    Keeps (identity.Tended since) (Caches.onKeys operation) :=
  .onPart keeps (fun _ _ tended => tended) fun _ _ _ tended => tended

theorem onTokens_keeps {operation : Operation ε (Cache SignedToken × Cache KeySet) α}
    (keeps : Keeps (Renewal.Sound (fun _ _ => True) (identity.issuer.Tended since)) operation) :
    Keeps (identity.Tended since) (Caches.onTokens operation) :=
  .onPart keeps (fun _ _ tended => ⟨.anything _ _, tended⟩) fun _ _ _ sound => sound.2

inductive Offers (identity : ClientIdentity) : {α : Type} → Operation Error Caches α → Prop where
  | token : Offers identity identity.token
  | renew : Offers identity identity.renew
  | authenticate (request : Request) : Offers identity (identity.authenticate request)
  | requestAccess (holder target : String) : Offers identity (identity.requestAccess holder target)
  | loginSelf : Offers identity identity.loginSelf
  | verifyToken (raw : String) : Offers identity (identity.verifyToken raw)
  | checkIssuer (token : SignedToken) : Offers identity (identity.checkIssuer token)
  | checkSignature (token : SignedToken) : Offers identity (identity.checkSignature token)
  | checkClaims (token : SignedToken) : Offers identity (identity.checkClaims token)
  | introspect (raw : String) : Offers identity (identity.introspect raw)
  | clearToken : Offers identity clearToken
  | clearKeys : Offers identity clearKeys
  | logout : Offers identity logout

section Keeps

theorem token_keeps (fits : identity.Fits) : Keeps (identity.Tended since) identity.token := by
  refine onTokens_keeps ?_
  rw [← fits.resource]
  exact TokenResource.fetches.get_keeps

theorem renew_keeps (fits : identity.Fits) : Keeps (identity.Tended since) identity.renew := by
  refine onTokens_keeps ?_
  rw [← fits.resource]
  exact TokenResource.fetches.renew_keeps

theorem authenticate_keeps (fits : identity.Fits) (request : Request) :
    Keeps (identity.Tended since) (identity.authenticate request) :=
  .bind (token_keeps fits) fun _ => .succeed _

theorem requestAccess_keeps (fits : identity.Fits) (holder target : String) :
    Keeps (identity.Tended since) (identity.requestAccess holder target) :=
  .observe lasting_tended _ <| .bind (.ofExcept _) fun _ => .bind (.mapError (.ofExcept _)) fun _ =>
    .bind (.ofExcept _) fun _ => .bind (authenticate_keeps fits _) fun _ =>
      .bind (Exchange.postForm_keeps lasting_tended) fun _ => .bind (.ofExcept _) fun _ => .succeed _

theorem loginSelf_keeps (fits : identity.Fits) : Keeps (identity.Tended since) identity.loginSelf :=
  .observe lasting_tended _ (.mapError (renew_keeps fits))

theorem introspect_keeps (raw : String) :
    Keeps (identity.Tended since) (identity.introspect raw) := by
  refine .bind (.ofOption _ _) fun endpoint =>
    .bind (Exchange.postForm_keeps lasting_tended) fun answer => ?_
  split
  · exact .succeed _
  · exact .fail _

theorem checkIssuer_keeps (token : SignedToken) :
    Keeps (identity.Tended since) (identity.checkIssuer token) :=
  .mapError (onKeys_keeps (Issuer.check_keeps token))

theorem checkSignature_keeps (token : SignedToken) :
    Keeps (identity.Tended since) (identity.checkSignature token) := by
  unfold checkSignature
  cases known : identity.issuer.keySource? with
  | none => exact Keeps.fail (Error.verification (.keySetUnavailable .noEndpoint))
  | some source =>
    exact Keeps.mapError (onKeys_keeps (Issuer.keeps_of_source known (KeySource.check_keeps token)))

theorem checkClaims_keeps (token : SignedToken) :
    Keeps (identity.Tended since) (identity.checkClaims token) :=
  .bind .now fun _ => .mapError (.ofDated _)

theorem verifyToken_keeps (raw : String) :
    Keeps (identity.Tended since) (identity.verifyToken raw) := by
  refine .bind (.mapError (.ofExcept _)) fun token => .bind (checkIssuer_keeps token) fun _ =>
    .bind (checkClaims_keeps token) fun _ => ?_
  split
  · exact .bind (introspect_keeps raw) fun _ => .succeed _
  · exact .succeed _

theorem clearToken_keeps : Keeps (identity.Tended since) clearToken :=
  .revise fun _ _ tended => tended

theorem clearKeys_keeps : Keeps (identity.Tended since) clearKeys :=
  .revise fun _ _ tended => ⟨fun _ _ => .of_none rfl rfl, tended.2⟩

theorem Offers.keeps (fits : identity.Fits) {operation : Operation Error Caches α}
    (offered : identity.Offers operation) : Keeps (identity.Tended since) operation := by
  cases offered with
  | token => exact token_keeps fits
  | renew => exact renew_keeps fits
  | authenticate request => exact authenticate_keeps fits request
  | requestAccess holder target => exact requestAccess_keeps fits holder target
  | loginSelf => exact loginSelf_keeps fits
  | verifyToken raw => exact verifyToken_keeps raw
  | checkIssuer token => exact checkIssuer_keeps token
  | checkSignature token => exact checkSignature_keeps token
  | checkClaims token => exact checkClaims_keeps token
  | introspect raw => exact introspect_keeps raw
  | clearToken => exact clearToken_keeps
  | clearKeys => exact clearKeys_keeps
  | logout => exact .bind clearToken_keeps fun _ => clearKeys_keeps

end Keeps

/-- What can become of the caches of an identity: it is configured, and then does what it offers, in
any order and at any time, while memory runs short and other calls end what they began. -/
inductive Life (identity : ClientIdentity) : Caches → Environment → Prop where
  | configured {options : ClientOptions} {before environment : Environment}
      (done : (configure options : Operation Error Unit _) () before =
        ⟨.ok identity, (), environment⟩) :
      Life identity Caches.empty environment
  | perform {α : Type} {operation : Operation Error Caches α} {caches : Caches}
      {environment : Environment} (life : Life identity caches environment)
      (offered : identity.Offers operation) :
      Life identity (operation caches environment).memory (operation caches environment).environment
  | reclaim {caches freed : Caches} {environment : Environment}
      (life : Life identity caches environment) (given : caches.reclaim? = some freed) :
      Life identity freed environment
  /-- The clock moves, and others send requests. -/
  | elapse {caches : Caches} {earlier later : Environment} (life : Life identity caches earlier)
      (extends_ : earlier.Extends later) : Life identity caches later
  /-- Another call ends its refresh of the keys. -/
  | settleKeys {caches : Caches} {environment begun ended : Environment} {source : KeySource}
      {outcome : Except Error KeySet} (generation : Nat) (life : Life identity caches environment)
      (known : identity.issuer.keySource? = some source)
      (fetched : (attempt source.fetch : Operation Error Unit _) () begun = ⟨.ok outcome, (), ended⟩)
      (extends_ : ended.Extends environment) :
      Life identity { caches with keys := caches.keys.settle generation outcome environment.now }
        environment
  /-- Another call ends its refresh of the client's own token. -/
  | settleToken {caches : Caches} {environment : Environment} (generation : Nat)
      (outcome : Except Error SignedToken) (life : Life identity caches environment) :
      Life identity { caches with tokens := caches.tokens.settle generation outcome environment.now }
        environment

namespace Life

variable {caches : Caches} {environment : Environment}

theorem fits (life : identity.Life caches environment) : identity.Fits := by
  induction life with
  | configured done => exact (of_configure done).2
  | perform life offered fits => exact fits
  | reclaim life given fits => exact fits
  | elapse life extends_ fits => exact fits
  | settleKeys generation life known fetched extends_ fits => exact fits
  | settleToken generation outcome life fits => exact fits

/-- At every moment of its life, the keys that an identity holds were published by its issuer. -/
theorem backed (life : identity.Life caches environment) :
    identity.issuer.Backed caches.keys environment := by
  induction life with
  | configured done => exact fun source known => KeySource.backed_ageing _ _
  | perform life offered backed => exact (offered.keeps life.fits _ _ backed.tended).1
  | reclaim life given backed =>
    obtain ⟨keys, freed, rfl⟩ := Option.map_eq_some_iff.mp given
    exact fun source known => (backed source known).reclaim freed
  | elapse life extends_ backed => exact backed.later extends_
  | settleKeys generation life known fetched extends_ backed =>
    intro source same
    rw [known] at same
    cases same
    refine (backed _ known).settle generation ?_ _
    rintro set rfl
    exact (KeySource.published_of_attempt fetched).later extends_
  | settleToken generation outcome life backed => exact backed

end Life

end ClientIdentity

end BearerIdentity
