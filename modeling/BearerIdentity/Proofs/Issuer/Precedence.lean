import BearerIdentity.Proofs.Client.Configured
import BearerIdentity.Proofs.Http.Exchange

set_option autoImplicit false

namespace BearerIdentity

open Operation

inductive EndpointUse where
  | token
  | introspection
  | userinfo
  | jwks
  deriving DecidableEq, Repr

namespace Endpoints

def for? (endpoints : Endpoints) : EndpointUse → Option Url
  | .token => endpoints.token
  | .introspection => endpoints.introspection
  | .userinfo => endpoints.userinfo
  | .jwks => endpoints.jwks

@[simp] theorem for?_or (first other : Endpoints) (use : EndpointUse) :
    (first.or other).for? use = (first.for? use).or (other.for? use) := by
  cases use <;> rfl

@[simp] theorem for?_none (use : EndpointUse) : none.for? use = .none := by
  cases use <;> rfl

theorem ext_for? {first other : Endpoints} (same : ∀ use, first.for? use = other.for? use) :
    first = other := by
  have token : first.token = other.token := same .token
  have introspection : first.introspection = other.introspection := same .introspection
  have userinfo : first.userinfo = other.userinfo := same .userinfo
  have jwks : first.jwks = other.jwks := same .jwks
  cases first
  cases other
  simp_all

theorem or_assoc (first second third : Endpoints) :
    (first.or second).or third = first.or (second.or third) := by
  apply ext_for?
  intro use
  simp only [for?_or, Option.or_assoc]

theorem none_or (endpoints : Endpoints) : none.or endpoints = endpoints := by
  apply ext_for?
  intro use
  simp only [for?_or, for?_none, Option.none_or]

theorem or_none (endpoints : Endpoints) : endpoints.or none = endpoints := by
  apply ext_for?
  intro use
  simp only [for?_or, for?_none, Option.or_none]

end Endpoints

namespace DiscoveryDocument

variable {ε σ : Type}

def reading (location : Url) (expected : String) (answer : Except TransportError Response) :
    Except Error DiscoveryDocument := do
  let document ← Exchange.reading decoder (·.unexpected location) answer
  if document.issuer = expected then .ok document
  else .error (VerifyError.issuerMismatch expected document.issuer)

theorem reading_eq_ok {location : Url} {expected : String} {answer : Except TransportError Response}
    {document : DiscoveryDocument} :
    reading location expected answer = .ok document ↔ ∃ response, answer = .ok response ∧
      response.isSuccess = true ∧ response.json decoder = .ok document ∧
      document.issuer = expected := by
  have owned : reading location expected answer = .ok document ↔
      Exchange.reading decoder (·.unexpected location) answer = .ok document ∧
        document.issuer = expected := by
    unfold reading
    cases Exchange.reading decoder (·.unexpected location) answer with
    | error cause => simp [Bind.bind, Except.bind]
    | ok other =>
      simp only [Bind.bind, Except.bind, Except.ok.injEq]
      by_cases own : other.issuer = expected
      · rw [if_pos own, Except.ok.injEq]
        constructor
        · intro same
          exact ⟨same, same ▸ own⟩
        · exact And.left
      · rw [if_neg own]
        constructor
        · intro impossible
          cases impossible
        · rintro ⟨rfl, same⟩
          exact absurd same own
  rw [owned, Exchange.reading_eq_ok]
  simp only [← exists_and_right, and_assoc]

theorem attempt_fetch (location : Url) (expected : String) (memory : σ) (environment : Environment) :
    ∃ later, (attempt (fetch location expected) : Operation ε σ _) memory environment =
      ⟨.ok (reading location expected (environment.network environment.sent (.get location))), memory,
        later⟩ := by
  have answered : ∀ begun : Environment, Exchange.getJson decoder location memory begun =
      ⟨(Exchange.reading decoder (·.unexpected location)
          (begun.network begun.sent (.get location))).mapError .error, memory,
        (begun.exchange (.get location)).2⟩ := fun begun => Exchange.fetch_apply memory begun
  have same : (environment.record .discovery .attempt).network
      (environment.record .discovery .attempt).sent (.get location) =
        environment.network environment.sent (.get location) := rfl
  simp only [attempt, fetch, observe_apply, Bind.bind, andThen, answered, same, reading]
  cases Exchange.reading decoder (·.unexpected location) (environment.network environment.sent _) with
  | error cause => exact ⟨_, rfl⟩
  | ok document =>
    by_cases own : document.issuer = expected
    · simp only [own, mapError_ok, Except.bind, ite_true]
      exact ⟨_, rfl⟩
    · simp only [own, mapError_ok, Except.bind, ite_false]
      exact ⟨_, rfl⟩

end DiscoveryDocument

namespace IssuerMetadata

def document? (metadata : IssuerMetadata) : DiscoveryKind → Option DiscoveryDocument
  | .oidc => metadata.oidc
  | .uma2 => metadata.uma2

/-- A search for a document, with the memory and the environment in which it is made. -/
structure Inquiry (σ : Type) where
  kind : DiscoveryKind
  location : Option Url
  memory : σ
  environment : Environment

namespace Inquiry

variable {σ : Type}

def place (inquiry : Inquiry σ) (issuer : String) : Except ConfigError Url :=
  inquiry.location.elim (inquiry.kind.wellKnownUrl issuer) .ok

def answer (inquiry : Inquiry σ) (issuer : String) : Except Error DiscoveryDocument := do
  let url ← (inquiry.place issuer).mapError .config
  DiscoveryDocument.reading url issuer
    (inquiry.environment.network inquiry.environment.sent (.get url))

def found? (inquiry : Inquiry σ) (issuer : String) : Option DiscoveryDocument :=
  (inquiry.answer issuer).toOption

/-- A document is found: there is a place for it, a request is answered there with success and with this
document, and the document is the issuer's. -/
def Finds (inquiry : Inquiry σ) (issuer : String) (document : DiscoveryDocument) : Prop :=
  ∃ url response, inquiry.place issuer = .ok url ∧
    inquiry.environment.network inquiry.environment.sent (.get url) = .ok response ∧
    response.isSuccess = true ∧ response.json DiscoveryDocument.decoder = .ok document ∧
    document.issuer = issuer

def outcome (inquiry : Inquiry σ) (metadata : IssuerMetadata) :
    Outcome Error σ (IssuerMetadata × Bool) :=
  metadata.configure inquiry.kind inquiry.location inquiry.memory inquiry.environment

def learned (inquiry : Inquiry σ) (metadata : IssuerMetadata) : IssuerMetadata :=
  match inquiry.answer metadata.issuer with
  | .ok document => metadata.withDocument inquiry.kind document
  | .error cause =>
    metadata.withFailure inquiry.kind (inquiry.place metadata.issuer).toOption cause

variable {inquiry : Inquiry σ} {metadata : IssuerMetadata} {issuer : String}
  {document : DiscoveryDocument}

theorem found?_eq_some_iff : inquiry.found? issuer = some document ↔ inquiry.Finds issuer document := by
  unfold found? answer Finds
  cases inquiry.place issuer with
  | error cause => simp [Bind.bind, Except.bind, Except.toOption]
  | ok url =>
    simp only [mapError_ok, Bind.bind, Except.bind, Except.ok.injEq, exists_and_left, exists_eq_left']
    rw [← DiscoveryDocument.reading_eq_ok]
    cases DiscoveryDocument.reading url issuer _ <;> simp [Except.toOption]

theorem outcome_eq (inquiry : Inquiry σ) (metadata : IssuerMetadata) :
    ∃ later, inquiry.outcome metadata =
      ⟨.ok (inquiry.learned metadata, (inquiry.found? metadata.issuer).isSome), inquiry.memory,
        later⟩ := by
  unfold outcome configure learned found? answer
  rw [← place]
  cases inquiry.place metadata.issuer with
  | error cause => exact ⟨_, rfl⟩
  | ok url =>
    obtain ⟨later, fetched⟩ := DiscoveryDocument.attempt_fetch (ε := Error) url metadata.issuer inquiry.memory
      inquiry.environment
    simp only [Bind.bind, andThen, fetched, mapError_ok, Except.bind]
    cases DiscoveryDocument.reading url metadata.issuer _ with
    | error cause => exact ⟨later, rfl⟩
    | ok document => exact ⟨later, rfl⟩

end Inquiry

variable {σ : Type}

/-- What is known of the issuer after searches for documents. The searches are listed, the latest first. -/
def after (first : IssuerMetadata) : List (Inquiry σ) → IssuerMetadata
  | [] => first
  | inquiry :: earlier =>
    match (inquiry.outcome (after first earlier)).result with
    | .ok (metadata, _) => metadata
    | .error _ => after first earlier

/-- How the searches for documents of a kind ended, the latest first. -/
def findings (kind : DiscoveryKind) (issuer : String) (inquiries : List (Inquiry σ)) :
    List (Option DiscoveryDocument) :=
  (inquiries.filter (·.kind == kind)).map (·.found? issuer)

def lastFound? (kind : DiscoveryKind) (issuer : String) (inquiries : List (Inquiry σ)) :
    Option DiscoveryDocument :=
  (findings kind issuer inquiries).findSome? id

variable {first metadata next : IssuerMetadata} {inquiry : Inquiry σ} {inquiries : List (Inquiry σ)}
  {kind : DiscoveryKind} {document : DiscoveryDocument}

@[simp] theorem document?_withDocument (metadata : IssuerMetadata) (kind : DiscoveryKind)
    (document : DiscoveryDocument) :
    (metadata.withDocument kind document).document? kind = some document := by
  cases kind <;> rfl

theorem document?_withDocument_of_ne (metadata : IssuerMetadata) {kind other : DiscoveryKind}
    (differs : other ≠ kind) (document : DiscoveryDocument) :
    (metadata.withDocument kind document).document? other = metadata.document? other := by
  cases kind <;> cases other <;> first | rfl | exact absurd rfl differs

@[simp] theorem document?_withFailure (metadata : IssuerMetadata) (kind other : DiscoveryKind)
    (location : Option Url) (error : Error) :
    (metadata.withFailure kind location error).document? other = metadata.document? other := by
  cases other <;> rfl

theorem after_cons (first : IssuerMetadata) (inquiry : Inquiry σ) (earlier : List (Inquiry σ)) :
    after first (inquiry :: earlier) = inquiry.learned (after first earlier) := by
  obtain ⟨later, ended⟩ := inquiry.outcome_eq (after first earlier)
  rw [after, ended]

theorem learned_fixed (inquiry : Inquiry σ) (metadata : IssuerMetadata) :
    (inquiry.learned metadata).issuer = metadata.issuer ∧
      (inquiry.learned metadata).overrides = metadata.overrides := by
  unfold Inquiry.learned
  cases inquiry.answer metadata.issuer with
  | error cause => exact ⟨rfl, rfl⟩
  | ok document => cases inquiry.kind <;> exact ⟨rfl, rfl⟩

theorem after_fixed (first : IssuerMetadata) (inquiries : List (Inquiry σ)) :
    (after first inquiries).issuer = first.issuer ∧
      (after first inquiries).overrides = first.overrides := by
  induction inquiries with
  | nil => exact ⟨rfl, rfl⟩
  | cons inquiry earlier known =>
    have fixed := learned_fixed inquiry (after first earlier)
    rw [after_cons]
    exact ⟨fixed.1.trans known.1, fixed.2.trans known.2⟩

theorem document?_learned (inquiry : Inquiry σ) (metadata : IssuerMetadata) (kind : DiscoveryKind) :
    (inquiry.learned metadata).document? kind =
      if inquiry.kind = kind then (inquiry.found? metadata.issuer).or (metadata.document? kind)
      else metadata.document? kind := by
  unfold Inquiry.learned Inquiry.found?
  cases inquiry.answer metadata.issuer with
  | error cause =>
    rw [document?_withFailure]
    simp [Except.toOption]
  | ok document =>
    by_cases same : inquiry.kind = kind
    · subst same
      simp [Except.toOption]
    · rw [if_neg same]
      exact document?_withDocument_of_ne metadata (Ne.symm same) document

/-- The document of a kind is the last one that was found, or else what there was at first. -/
theorem document?_after (first : IssuerMetadata) (inquiries : List (Inquiry σ)) (kind : DiscoveryKind) :
    (after first inquiries).document? kind =
      (lastFound? kind first.issuer inquiries).or (first.document? kind) := by
  induction inquiries with
  | nil => rfl
  | cons inquiry earlier known =>
    have issuer := (after_fixed first earlier).1
    rw [after_cons, document?_learned, known, issuer]
    by_cases same : inquiry.kind = kind
    · rw [if_pos same, ← Option.or_assoc]
      congr 1
      simp only [lastFound?, findings, List.filter_cons, same, beq_self_eq_true, ite_true, List.map_cons,
        List.findSome?_cons, id]
      cases inquiry.found? first.issuer <;> rfl
    · rw [if_neg same]
      simp [lastFound?, findings, same]

theorem for?_discovered (document : Option DiscoveryDocument) (use : EndpointUse) :
    (discovered document).for? use = document.bind (·.endpoints.for? use) := by
  cases document with
  | none => exact Endpoints.for?_none use
  | some document => rfl

theorem for?_endpoints (metadata : IssuerMetadata) (use : EndpointUse) :
    metadata.endpoints.for? use =
      ((metadata.overrides.for? use).or
        ((metadata.document? .uma2).bind (·.endpoints.for? use))).or
          ((metadata.document? .oidc).bind (·.endpoints.for? use)) := by
  rw [endpoints, Endpoints.for?_or, Endpoints.for?_or, for?_discovered, for?_discovered]
  rfl

theorem endpoints_congr {one other : IssuerMetadata} (overrides : one.overrides = other.overrides)
    (documents : ∀ kind, one.document? kind = other.document? kind) :
    one.endpoints = other.endpoints := by
  apply Endpoints.ext_for?
  intro use
  rw [for?_endpoints, for?_endpoints, overrides, documents .uma2, documents .oidc]

/-- A search that has found a document leaves everything else as it was. -/
structure Gains (metadata next : IssuerMetadata) (inquiry : Inquiry σ) (document : DiscoveryDocument) :
    Prop where
  held : next.document? inquiry.kind = some document
  others : ∀ kind, kind ≠ inquiry.kind → next.document? kind = metadata.document? kind
  failures : next.failures = metadata.failures

/-- A search that has failed is noted, and all else is as it was. -/
structure Notes (metadata next : IssuerMetadata) (inquiry : Inquiry σ) (cause : Error) : Prop where
  documents : ∀ kind, next.document? kind = metadata.document? kind
  endpoints : next.endpoints = metadata.endpoints
  failures : next.failures = metadata.failures ++
    [⟨inquiry.kind, (inquiry.place metadata.issuer).toOption, cause.message⟩]

/-- What a search comes to, and whether it tells that a document was found. -/
inductive Settles (metadata : IssuerMetadata) (inquiry : Inquiry σ) : IssuerMetadata → Bool → Prop
  | found {next : IssuerMetadata} {document : DiscoveryDocument}
      (finds : inquiry.Finds metadata.issuer document) (gains : Gains metadata next inquiry document) :
      Settles metadata inquiry next true
  | failed {next : IssuerMetadata} {cause : Error} (fails : inquiry.answer metadata.issuer = .error cause)
      (nothing : ∀ document, ¬ inquiry.Finds metadata.issuer document)
      (notes : Notes metadata next inquiry cause) :
      Settles metadata inquiry next false

theorem settles (metadata : IssuerMetadata) (inquiry : Inquiry σ) :
    Settles metadata inquiry (inquiry.learned metadata)
      (inquiry.found? metadata.issuer).isSome := by
  have finds : ∀ document, inquiry.Finds metadata.issuer document ↔
      inquiry.found? metadata.issuer = some document := fun _ => Inquiry.found?_eq_some_iff.symm
  unfold Inquiry.learned
  unfold Inquiry.found? at finds ⊢
  cases answer : inquiry.answer metadata.issuer with
  | ok document =>
    simp only [answer, Except.toOption] at finds ⊢
    refine .found ((finds document).mpr rfl) ⟨?_, ?_, ?_⟩
    · exact document?_withDocument metadata inquiry.kind document
    · intro kind differs
      exact document?_withDocument_of_ne metadata differs document
    · cases inquiry.kind <;> rfl
  | error cause =>
    simp only [answer, Except.toOption] at finds ⊢
    have documents (kind : DiscoveryKind) := document?_withFailure metadata inquiry.kind kind
      (inquiry.place metadata.issuer).toOption cause
    have notes : Notes metadata (metadata.withFailure inquiry.kind (inquiry.place metadata.issuer).toOption cause)
        inquiry cause := ⟨documents, endpoints_congr rfl documents, rfl⟩
    refine .failed answer ?_ notes
    intro document found
    cases (finds document).mp found

structure Resolves (first : IssuerMetadata) (inquiries : List (Inquiry σ)) : Prop where
  /-- What is set counts first, then the last resource management document, then the last sign-in
  document. -/
  endpoint : ∀ use, (after first inquiries).endpoints.for? use =
    ((first.overrides.for? use).or
      (((lastFound? .uma2 first.issuer inquiries).or first.uma2).bind (·.endpoints.for? use))).or
        (((lastFound? .oidc first.issuer inquiries).or first.oidc).bind (·.endpoints.for? use))
  /-- Whatever was found names the issuer. -/
  own : ∀ kind document, (after first inquiries).document? kind = some document →
    document.issuer = (after first inquiries).issuer ∨ first.document? kind = some document
  /-- It does not matter how the searches for the two kinds follow each other. -/
  apart : ∀ others : List (Inquiry σ),
    (∀ kind, findings kind first.issuer inquiries = findings kind first.issuer others) →
      (after first inquiries).endpoints = (after first others).endpoints ∧
        ∀ kind, (after first inquiries).document? kind = (after first others).document? kind

theorem mem_findings {found : Option DiscoveryDocument} {issuer : String}
    (listed : found ∈ findings kind issuer inquiries) :
    ∃ inquiry ∈ inquiries, inquiry.found? issuer = found := by
  obtain ⟨inquiry, kept, same⟩ := List.mem_map.mp listed
  exact ⟨inquiry, (List.mem_filter.mp kept).1, same⟩

theorem issuer_of_lastFound? {issuer : String}
    (found : lastFound? kind issuer inquiries = some document) : document.issuer = issuer := by
  obtain ⟨finding, listed, same⟩ := List.exists_of_findSome?_eq_some found
  obtain ⟨inquiry, -, ended⟩ := mem_findings listed
  rw [id] at same
  rw [same] at ended
  obtain ⟨url, response, -, -, -, -, own⟩ := Inquiry.found?_eq_some_iff.mp ended
  exact own

theorem resolves_after (first : IssuerMetadata) (inquiries : List (Inquiry σ)) :
    Resolves first inquiries := by
  have fixed := after_fixed first inquiries
  have documents := document?_after first inquiries
  refine ⟨?_, ?_, ?_⟩
  · intro use
    rw [for?_endpoints, fixed.2, documents .uma2, documents .oidc]
    rfl
  · intro kind document held
    rw [documents kind] at held
    rw [fixed.1]
    rcases Option.or_eq_some_iff.mp held with found | ⟨-, before⟩
    · exact .inl (issuer_of_lastFound? found)
    · exact .inr before
  · intro others same
    have alike : ∀ kind, (after first inquiries).document? kind =
        (after first others).document? kind := by
      intro kind
      rw [documents kind, document?_after first others kind, lastFound?, lastFound?, same kind]
    refine ⟨endpoints_congr ?_ alike, alike⟩
    rw [fixed.2, (after_fixed first others).2]

/-- Endpoints are resolved by precedence, whatever searches there were and however they ended. Every
search ends in one of two ways, and filling up endpoints is associative, with the missing endpoints as
identity. -/
theorem endpoints_resolved (first : IssuerMetadata) (inquiries : List (Inquiry σ)) :
    Resolves first inquiries ∧
      (∀ (metadata : IssuerMetadata) (inquiry : Inquiry σ), ∃ next isFound,
        (inquiry.outcome metadata).result = .ok (next, isFound) ∧
          Settles metadata inquiry next isFound) ∧
      (∀ one two three : Endpoints, (one.or two).or three = one.or (two.or three)) ∧
      ∀ endpoints : Endpoints, Endpoints.none.or endpoints = endpoints ∧
        endpoints.or Endpoints.none = endpoints := by
  refine ⟨resolves_after first inquiries, ?_, Endpoints.or_assoc, ?_⟩
  · intro metadata inquiry
    obtain ⟨later, ended⟩ := inquiry.outcome_eq metadata
    exact ⟨_, _, congrArg Outcome.result ended, settles metadata inquiry⟩
  · intro endpoints
    exact ⟨endpoints.none_or, endpoints.or_none⟩

end IssuerMetadata

namespace Rediscovery

open IssuerMetadata

def place (name : String) : Url where
  scheme := "https"
  username := ""
  password := none
  host := some (.domain "i")
  port := none
  path := .rooted [name]
  query := none
  fragment := none

def network : Network := fun _ request =>
  .ok <| .ofValue <| .ofMembers <|
    if request.url = place "openid" then
      [("issuer", .string "i"), ("token_endpoint", .string "https://i/token"),
        ("jwks_uri", .string "https://i/keys")]
    else if request.url = place "uma2" then
      [("issuer", .string "i"), ("token_endpoint", .string "https://i/rpt")]
    else [("issuer", .string "j"), ("token_endpoint", .string "https://j/rpt")]

def environment : Environment where
  now := .epoch
  network := network
  sent := []
  entropy := []
  flows := []

def first : IssuerMetadata :=
  .ofIssuer "i" .none

def openid : Inquiry Unit :=
  ⟨.oidc, some (place "openid"), (), environment⟩

def uma2 : Inquiry Unit :=
  ⟨.uma2, some (place "uma2"), (), environment⟩

def foreign : Inquiry Unit :=
  ⟨.uma2, some (place "elsewhere"), (), environment⟩

theorem found : (after first [foreign, uma2, openid]).endpoints =
    ⟨some (place "rpt"), none, none, some (place "keys")⟩ := by
  decide +kernel

/-- The order in which the documents were found does not matter, and the foreign one changes nothing. -/
theorem found_in_either_order : (after first [foreign, openid, uma2]).endpoints =
    ⟨some (place "rpt"), none, none, some (place "keys")⟩ := by
  have alike : ∀ kind, findings kind first.issuer [foreign, uma2, openid] =
      findings kind first.issuer [foreign, openid, uma2] := by
    intro kind
    cases kind <;> rfl
  have same := ((endpoints_resolved first [foreign, uma2, openid]).1.apart [foreign, openid, uma2] alike).1
  rw [← same, found]

end Rediscovery

end BearerIdentity
