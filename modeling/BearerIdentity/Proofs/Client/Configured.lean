import BearerIdentity.Client.Identity
import BearerIdentity.Proofs.Operation.Success

set_option autoImplicit false

namespace BearerIdentity

open Operation

variable {ε σ : Type} {memory memory' : σ} {environment environment' : Environment}
  {metadata metadata' : IssuerMetadata}

namespace IssuerMetadata

@[simp] theorem issuer_withDocument (kind : DiscoveryKind) (document : DiscoveryDocument) :
    (metadata.withDocument kind document).issuer = metadata.issuer := by
  cases kind <;> rfl

@[simp] theorem issuer_withFailure (kind : DiscoveryKind) (location : Option Url) (error : Error) :
    (metadata.withFailure kind location error).issuer = metadata.issuer := rfl

theorem issuer_of_configure {kind : DiscoveryKind} {location : Option Url} {isFound : Bool}
    (found : (metadata.configure kind location : Operation ε σ _) memory environment =
      ⟨.ok (metadata', isFound), memory', environment'⟩) :
    metadata'.issuer = metadata.issuer := by
  unfold configure at found
  cases place : location.elim (kind.wellKnownUrl metadata.issuer) Except.ok with
  | error cause =>
    simp only [place, succeed_eq_ok, Prod.mk.injEq] at found
    rw [← found.1.1, issuer_withFailure]
  | ok url =>
    simp only [place, bind_eq_ok] at found
    obtain ⟨outcome, _, _, -, rest⟩ := found
    cases outcome with
    | ok document =>
      simp only [succeed_eq_ok, Prod.mk.injEq] at rest
      rw [← rest.1.1, issuer_withDocument]
    | error cause =>
      simp only [succeed_eq_ok, Prod.mk.injEq] at rest
      rw [← rest.1.1, issuer_withFailure]

end IssuerMetadata

namespace ClientConfig

theorem issuer_of_configureKind {kind : DiscoveryKind} {discovery : Discovery}
    (found : (configureKind metadata kind discovery : Operation ε σ _) memory environment =
      ⟨.ok metadata', memory', environment'⟩) :
    metadata'.issuer = metadata.issuer := by
  unfold configureKind at found
  split at found
  · simp only [bind_eq_ok, succeed_eq_ok] at found
    obtain ⟨⟨other, isFound⟩, _, _, configured, rfl, -, -⟩ := found
    exact IssuerMetadata.issuer_of_configure configured
  · simp only [succeed_eq_ok] at found
    rw [found.1]

theorem issuer_of_discover {config : ClientConfig}
    (found : (config.discover : Operation ε σ _) memory environment =
      ⟨.ok metadata, memory', environment'⟩) :
    metadata.issuer = config.issuer.getD "" := by
  unfold discover at found
  split at found
  · simp only [succeed_eq_ok] at found
    rw [← found.1]
    rfl
  · simp only [bind_eq_ok] at found
    obtain ⟨metadata₁, _, _, oidc, uma2⟩ := found
    rw [issuer_of_configureKind uma2, issuer_of_configureKind oidc]
    rfl

theorem issuer_of_validate {config : ClientConfig} (valid : config.validate metadata = .ok ()) :
    ∃ issuer, config.issuer = some issuer ∧ issuer.isEmpty = false := by
  unfold validate missingSetting? at valid
  dsimp only at valid
  cases named : config.issuer with
  | none => simp [named] at valid
  | some issuer =>
    cases blank : issuer.isEmpty with
    | true => simp [named, blank] at valid
    | false => exact ⟨issuer, rfl, blank⟩

end ClientConfig

namespace ClientIdentity

variable {identity : ClientIdentity}

/-- An identity fits its own configuration: it is of the issuer that is named there, and obtains its
own tokens from that issuer. -/
structure Fits (identity : ClientIdentity) : Prop where
  issuer : identity.config.issuer = some identity.issuer.metadata.issuer
  resource : identity.resource.issuer = identity.issuer

theorem of_ofParts {config : ClientConfig} (made : ofParts config metadata = .ok identity) :
    config.validate metadata = .ok () ∧ identity.config = config ∧
      identity.issuer.metadata = metadata ∧ identity.resource.issuer = identity.issuer := by
  unfold ofParts at made
  cases valid : config.validate metadata with
  | error cause =>
    rw [valid] at made
    cases made
  | ok _ =>
    rw [valid] at made
    simp only [Bind.bind, Except.bind] at made
    split at made
    · cases made
    · cases made
      exact ⟨rfl, rfl, rfl, rfl⟩

/-- The identity of an issuer that was configured fits the options, whatever the network answered. -/
theorem of_configure {options : ClientOptions}
    (configured : configure options memory environment = ⟨.ok identity, memory', environment'⟩) :
    options.resolve = .ok identity.config ∧ identity.Fits := by
  simp only [configure, bind_eq_ok, mapError_eq_ok, ofExcept_eq_ok] at configured
  obtain ⟨config, _, _, ⟨resolved, -, -⟩, metadata, _, _, discovered, made, -, -⟩ := configured
  obtain ⟨valid, rfl, rfl, resource⟩ := of_ofParts made
  obtain ⟨issuer, named, -⟩ := ClientConfig.issuer_of_validate valid
  refine ⟨resolved, ?_, resource⟩
  rw [ClientConfig.issuer_of_discover discovered, named]
  rfl

end ClientIdentity

end BearerIdentity
