import BearerIdentity.Proofs.Client.OwnName

set_option autoImplicit false

namespace BearerIdentity

open Operation

namespace IdentityUri

/-- A URI names the client with this id at the host of this issuer. -/
structure Names (uri : IdentityUri) (clientId : String) (issuer : Url) : Prop where
  client : uri.clientId = some clientId
  host : ∃ host, uri.host = some host ∧ issuer.hostText? = some host

/-- As far as a URI names a port and a path, they are those of this issuer. -/
structure Fits (uri : IdentityUri) (issuer : Url) : Prop where
  port : ∀ port, uri.port = some port → issuer.port.or (Url.defaultPort? issuer.scheme) = some port
  path : uri.path ≠ "" → uri.path = String.ofList (Blank.dropEnd (· == '/') issuer.path.text.toList)

end IdentityUri

namespace ClientIdentity

variable {config : ClientConfig} {metadata : IssuerMetadata} {identity : ClientIdentity} {url : Url}
  {holder : String}

/-- Whatever happens to requests for access on behalf of this holder, none is refused as one on behalf of
somebody else. -/
def Admits (identity : ClientIdentity) (holder : String) : Prop :=
  ∀ target, Raises (¬ ·.IsUnsupported) (identity.requestAccess holder target)

/-- Every request for access on behalf of this holder is refused, and nothing is sent. -/
def Refuses (identity : ClientIdentity) (holder : String) : Prop :=
  ∀ target caches environment, identity.requestAccess holder target caches environment =
    ⟨.error (.error (.unsupported "delegated access on behalf of another identity")), caches,
      (environment.record .requestAccess .attempt).record .requestAccess .failure⟩

theorem Refuses.not_admits (refuses : identity.Refuses holder) : ¬ identity.Admits holder := by
  intro admits
  have refused := refuses "" Caches.empty ⟨.epoch, fun _ _ => .error (.io ""), [], [], []⟩
  exact admits "" _ _ _ (congrArg Outcome.result refused) ⟨_, rfl⟩

/-- On whose behalf a client can request access. -/
structure Admission (identity : ClientIdentity) (issuer : Url) : Prop where
  /-- Whoever is named by the client's id and the issuer's host is let through. -/
  admitted : ∀ holder, identity.Admits holder ↔ ∃ uri, IdentityUri.parse holder = .ok uri ∧
    uri.Names identity.config.clientId issuer
  /-- Everybody else is refused, as is a text that names nobody. -/
  refused : ∀ holder, identity.Refuses holder ↔ ¬ ∃ uri, IdentityUri.parse holder = .ok uri ∧
    uri.Names identity.config.clientId issuer
  /-- The path of the issuer makes no difference: whichever realm, or whatever else, is put behind the name
  of the client, it is let through. -/
  namesakes : Url.IsVerbatim identity.config.clientId.toList → ∀ rest, Url.IsTail rest.toList →
    identity.Admits (identity.name ++ rest)

section

variable (made : ofParts config metadata = .ok identity) (read : Url.parse? metadata.issuer = some url)

include made

theorem admits_of_ensureSelf (self : identity.ensureSelf holder = .ok ()) : identity.Admits holder :=
  (equipped_of_ofParts made).requestAccess_supported self

include read

theorem ensureSelf_iff_names (hosted : url.hostText? ≠ none) : identity.ensureSelf holder = .ok () ↔
    ∃ uri, IdentityUri.parse holder = .ok uri ∧ uri.Names identity.config.clientId url := by
  rw [ensureSelf_eq_ok, host?_of_ofParts made read]
  constructor
  · rintro ⟨uri, parsed, client, sameHost⟩
    obtain ⟨host, hostText⟩ := Option.ne_none_iff_exists'.mp hosted
    exact ⟨uri, parsed, client, host, sameHost.trans hostText, hostText⟩
  · rintro ⟨uri, parsed, client, host, uriHost, issuerHost⟩
    exact ⟨uri, parsed, client, uriHost.trans issuerHost.symm⟩

end

/-- A client goes by its id and by the host of its issuer. -/
theorem admission (made : ofParts config metadata = .ok identity)
    (read : Url.parse? metadata.issuer = some url) (secure : url.scheme = "https") :
    identity.Admission url := by
  obtain ⟨_, host, _, hostText, _⟩ := exists_name made read secure
  have hosted : url.hostText? ≠ none := by simp [hostText]
  have refuses {holder : String} (foreign : identity.ensureSelf holder ≠ .ok ()) :
      identity.Refuses holder :=
    refused_of_ensureSelf (ensureSelf_of_ne_ok foreign)
  constructor
  case admitted =>
    intro holder
    rw [← ensureSelf_iff_names made read hosted]
    refine ⟨fun admitted => ?_, admits_of_ensureSelf made⟩
    by_contra foreign
    exact (refuses foreign).not_admits admitted
  case refused =>
    intro holder
    rw [← ensureSelf_iff_names made read hosted]
    refine ⟨fun refused self => ?_, refuses⟩
    exact refused.not_admits (admits_of_ensureSelf made self)
  case namesakes =>
    intro verbatim rest behind
    obtain ⟨uri, host, parsed, client, uriHost, issuerHost⟩ :=
      exists_parse_name made read secure verbatim behind
    apply admits_of_ensureSelf made
    rw [ensureSelf_iff_names made read hosted]
    exact ⟨uri, parsed, client, host, uriHost, issuerHost⟩

end ClientIdentity

namespace Namesake

open ClientIdentity

def elsewhere : String := "oidc://api@idp.example/realms/other"

def stranger : IdentityUri where
  scheme := .oidc
  clientId := some "api"
  clientSecret := none
  host := some "idp.example"
  port := none
  path := "/realms/other"
  params := []

theorem parse_elsewhere : IdentityUri.parse elsewhere = .ok stranger := by
  decide +kernel

theorem stranger_named : stranger.Names (identity "api").config.clientId url :=
  ⟨rfl, _, rfl, rfl⟩

/-- A client with the same id, in a realm of its own at the same host. -/
theorem elsewhere_admitted : ofParts (config "api") metadata = .ok (identity "api") ∧
    Url.parse? location = some url ∧ url.scheme = "https" ∧ (identity "api").Admits elsewhere := by
  have made : ofParts (config "api") metadata = .ok (identity "api") := rfl
  have admission := admission made parse?_location rfl
  have named : ∃ uri, IdentityUri.parse elsewhere = .ok uri ∧
      uri.Names (identity "api").config.clientId url :=
    ⟨stranger, parse_elsewhere, stranger_named⟩
  exact ⟨made, parse?_location, rfl, (admission.admitted elsewhere).mpr named⟩

theorem not_only_itself : ¬ ∀ config metadata identity url, ofParts config metadata = .ok identity →
    Url.parse? metadata.issuer = some url → url.scheme = "https" →
      ∀ holder, identity.Admits holder → ∃ uri, IdentityUri.parse holder = .ok uri ∧
        uri.Names identity.config.clientId url ∧ uri.Fits url := by
  intro only
  have made : ofParts (config "api") metadata = .ok (identity "api") := rfl
  have self : (identity "api").ensureSelf elsewhere = .ok () :=
    (ensureSelf_iff_names made parse?_location nofun).mpr ⟨stranger, parse_elsewhere, stranger_named⟩
  obtain ⟨uri, parsed, -, fits⟩ :=
    only _ _ _ _ made parse?_location rfl elsewhere (admits_of_ensureSelf made self)
  rw [parse_elsewhere] at parsed
  cases parsed
  have same := fits.path (by decide)
  revert same
  decide

end Namesake

end BearerIdentity
