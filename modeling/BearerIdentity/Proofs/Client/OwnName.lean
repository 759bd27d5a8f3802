import BearerIdentity.Proofs.Client.IdentityUri
import BearerIdentity.Proofs.Client.Sufficiency
import BearerIdentity.Proofs.Url.Authority

set_option autoImplicit false

/- Whether a client is known under its own name. The client's id goes into the name as it is, and the
name is read as a URI, where escapes are undone and some characters are delimiters. So the client knows
itself if its id stands for itself in a URL; otherwise it turns itself away, whatever it asks for. -/

namespace BearerIdentity

open Operation

namespace Url

variable {url : Url}

theorem scheme_of_parseFile? {text : List Char} (read : parseFile? text = some url) : url.scheme = "file" := by
  unfold parseFile? at read
  split at read
  · dsimp only at read
    split at read
    · split at read
      · cases read
        rfl
      · obtain ⟨host, -, read⟩ := Option.bind_eq_some_iff.mp read
        cases read
        rfl
    · cases read
      rfl
  · cases read
    rfl

theorem exists_host_of_parse? {text : String} (read : parse? text = some url)
    (special : Kind.ofScheme url.scheme = .special) : ∃ host, url.host = some host ∧ Recurs host := by
  obtain ⟨⟨scheme, rest⟩, -, read⟩ := Option.bind_eq_some_iff.mp read
  dsimp only at read
  split at read
  · rw [scheme_of_parseFile? read] at special
    cases special
  · obtain ⟨-, -, host, known, read⟩ := of_parseAuthority? read
    exact ⟨host, known, recurs_of_specialHost? read⟩
  · rename_i generic
    have same : url.scheme = scheme := by
      split at read
      · exact (of_parseAuthority? read).1
      · cases read
        rfl
      · cases read
        rfl
    rw [same, generic] at special
    cases special

theorem hostText?_of_host {host : Host} (known : url.host = some host) (filled : host ≠ .empty) :
    url.hostText? = some host.text := by
  unfold hostText?
  rw [known]
  cases host with
  | empty => exact absurd rfl filled
  | domain _ => rfl
  | ipv4 _ => rfl
  | ipv6 _ => rfl

theorem parse?_identity (scheme : IdentityScheme) (user : String) {host : Host} {rest : String}
    (recurs : Recurs host) (behind : ∀ c ∈ rest.toList, 0x20 < c.toNat) :
    parse? (scheme.name ++ "://" ++ user ++ "@" ++ host.text ++ rest) =
      parseAuthority? scheme.name .generic
        (user.toList.filter isRetained ++ '@' :: host.text.toList ++ rest.toList) := by
  have visible : ∀ c ∈ host.text.toList ++ rest.toList, 0x20 < c.toNat := by
    intro c member
    rcases List.mem_append.mp member with inHost | inRest
    · exact (recurs.chars c inHost).visible
    · exact behind c inRest
  have nonempty : host.text.toList ++ rest.toList ≠ [] := by
    simp [recurs.nonempty]
  have kept : (host.text.toList ++ rest.toList).filter isRetained = host.text.toList ++ rest.toList :=
    List.filter_eq_self.mpr fun c member => isRetained_of_visible (visible c member)
  have written : (scheme.name ++ "://" ++ user ++ "@" ++ host.text ++ rest).toList =
      scheme.name.toList ++ "://".toList ++ user.toList ++ "@".toList ++
        (host.text.toList ++ rest.toList) := by
    simp only [String.toList_append, List.append_assoc]
  have cleaned : clean (scheme.name ++ "://" ++ user ++ "@" ++ host.text ++ rest).toList =
      scheme.name.toList ++ "://".toList ++
        (user.toList.filter isRetained ++ '@' :: host.text.toList ++ rest.toList) := by
    rw [written, clean_eq_filter]
    · rw [List.filter_append, kept]
      simp only [List.filter_append, List.append_assoc]
      cases scheme <;> rfl
    · intro c first
      cases scheme <;> cases first <;> decide
    · intro c last
      rw [List.getLast?_append_of_ne_nil _ nonempty] at last
      exact visible c (List.mem_of_getLast? last)
  unfold parse?
  rw [cleaned]
  cases scheme <;> rfl

end Url

namespace IdentityUri

variable {text : String}

theorem decodeCredential_encodeUserinfo (name : List Char) (user : String) :
    decodeCredential (Url.encodeUserinfo name) = .ok user ↔
      Percent.decode (Utf8.encode name) = Utf8.encode user.toList := by
  have spared : Percent.decode (Utf8.ofString (Url.encodeUserinfo name)) =
      Percent.decode (Utf8.encode name) := by
    rw [Utf8.ofString, Url.encodeUserinfo, String.toList_ofList,
      Percent.decode_encode_encode Percent.sparesEscapes_inUserinfo]
  have found := Utf8.decode_eq_some_iff (Percent.decode (Utf8.encode name)) user.toList
  rw [decodeCredential, spared, ← found]
  cases Utf8.decode (Percent.decode (Utf8.encode name)) with
  | none => simp
  | some decoded =>
    simp only [Except.ok.injEq, Option.some.injEq]
    constructor
    · rintro rfl
      exact String.toList_ofList.symm
    · rintro rfl
      exact String.ofList_toList

/-- A client is only read from a text that was written with its id if the id stands for itself. -/
theorem isVerbatim_of_parse {scheme : IdentityScheme} {user : String} {host : Url.Host}
    (recurs : Url.Recurs host) {uri : IdentityUri}
    (read : parse (scheme.name ++ "://" ++ user ++ "@" ++ host.text) = .ok uri)
    (named : uri.clientId = some user) : Url.IsVerbatim user.toList := by
  obtain ⟨url, known, decoded⟩ := decodeCredential_of_parse read named
  have whole := Url.parse?_identity scheme user recurs (show Url.IsTail "".toList from Url.isTail_nil).visible
  rw [String.append_empty, String.toList_empty, List.append_nil] at whole
  rw [whole] at known
  obtain ⟨-, username, -⟩ := Url.of_parseAuthority? known
  rw [username, decodeCredential_encodeUserinfo] at decoded
  -- What is read has lost characters if it is not the whole, and decoding does not bring them back.
  have start : Url.writtenName .generic (user.toList.filter Url.isRetained ++ '@' :: host.text.toList) <+:
      user.toList.filter Url.isRetained := Url.writtenName_isPrefix recurs.clear .generic
  obtain ⟨whole, unescaped⟩ :=
    Percent.eq_of_decode_encode (start.sublist.trans List.filter_sublist) decoded
  refine ⟨fun c member => ?_, fun c member => ?_, unescaped⟩
  · rw [← whole] at member
    exact Url.not_isDelimiter_of_mem_writtenName member
  · rw [← whole] at member
    exact (List.mem_filter.mp (start.subset member)).2

theorem exists_parse_of_isVerbatim (scheme : IdentityScheme) {user rest : String} {host : Url.Host}
    (recurs : Url.Recurs host) (verbatim : Url.IsVerbatim user.toList) (filled : user ≠ "")
    (behind : Url.IsTail rest.toList) :
    ∃ uri, parse (scheme.name ++ "://" ++ user ++ "@" ++ host.text ++ rest) = .ok uri ∧
      uri.clientId = some user ∧ uri.host = some host.text := by
  obtain ⟨other, hosted, sameText, known⟩ :=
    Url.parseAuthority?_append scheme.name recurs verbatim.undelimited behind
  have kept : user.toList.filter Url.isRetained = user.toList :=
    List.filter_eq_self.mpr verbatim.retained
  have decoded : decodeCredential (Url.encodeUserinfo user.toList) = .ok user :=
    (decodeCredential_encodeUserinfo user.toList user).mpr
      ((Percent.decode_encode_eq_self_iff user.toList).mpr verbatim.unescaped)
  have schemeKnown : IdentityScheme.ofName? scheme.name = some scheme := by
    cases scheme <;> rfl
  have nonempty : user.isEmpty = false := by simpa using filled
  rw [← kept, ← Url.parse?_identity scheme user recurs behind.visible] at known
  unfold parse
  rw [known]
  simp only [Url.assemble, schemeKnown, kept, decoded]
  refine ⟨_, rfl, ?_, ?_⟩
  · simp [nonempty]
  · rw [← sameText]
    exact Url.hostText?_of_host rfl hosted

end IdentityUri

def Error.IsUnsupported (cause : Error) : Prop :=
  ∃ feature, cause = .unsupported feature

namespace ClientIdentity

variable {config : ClientConfig} {metadata : IssuerMetadata} {identity : ClientIdentity} {url : Url}

structure IsKnown (identity : ClientIdentity) (url : Url) : Prop where
  /-- The name is read as a URI with the client's id and the issuer's host. -/
  read : ∃ uri host, IdentityUri.parse identity.name = .ok uri ∧
    uri.clientId = some identity.config.clientId ∧ uri.host = some host ∧ url.hostText? = some host
  /-- Whatever happens to requests for access, none is refused as one on behalf of somebody else. -/
  admitted : ∀ target, Raises (¬ ·.IsUnsupported) (identity.requestAccess identity.name target)

structure IsMistaken (identity : ClientIdentity) : Prop where
  /-- If the name is read as a URI at all, then as one of another client, or of none. -/
  misread : ∀ uri, IdentityUri.parse identity.name = .ok uri →
    uri.clientId ≠ some identity.config.clientId
  /-- Every request for access is refused, and nothing is sent. -/
  refused : ∀ target caches environment,
    identity.requestAccess identity.name target caches environment =
      ⟨.error (.error (.unsupported "delegated access on behalf of another identity")), caches,
        (environment.record .requestAccess .attempt).record .requestAccess .failure⟩

theorem ensureSelf_eq_ok {holder : String} : identity.ensureSelf holder = .ok () ↔
    ∃ uri, IdentityUri.parse holder = .ok uri ∧ uri.clientId = some identity.config.clientId ∧
      uri.host = identity.issuer.metadata.host? := by
  unfold ensureSelf
  cases IdentityUri.parse holder with
  | error cause => simp
  | ok uri => simp

theorem ensureSelf_of_ne_ok {holder : String} (foreign : identity.ensureSelf holder ≠ .ok ()) :
    identity.ensureSelf holder =
      .error (.unsupported "delegated access on behalf of another identity") := by
  cases checked : identity.ensureSelf holder with
  | ok _ => exact absurd checked foreign
  | error cause => rw [unsupported_of_ensureSelf checked]

theorem refused_of_ensureSelf {holder : String} {cause : Error}
    (refused : identity.ensureSelf holder = .error cause) (target : String) (caches : Caches)
    (environment : Environment) : identity.requestAccess holder target caches environment =
      ⟨.error (.error cause), caches,
        (environment.record .requestAccess .attempt).record .requestAccess .failure⟩ := by
  rw [requestAccess, refused]
  rfl

/-- What becomes of a request for access on behalf of the client itself, it is not refused as one on
behalf of somebody else. -/
theorem Equipped.requestAccess_supported (equipped : identity.Equipped) {holder : String}
    (self : identity.ensureSelf holder = .ok ()) (target : String) :
    Raises (¬ ·.IsUnsupported) (identity.requestAccess holder target) := by
  refine .mono (equipped.requestAccess_raises holder target) ?_
  rintro cause (refused | misaddressed | incident) ⟨feature, rfl⟩
  · rw [self] at refused
    cases refused
  · cases misaddressed
  · cases incident

section

variable (made : ofParts config metadata = .ok identity) (read : Url.parse? metadata.issuer = some url)
  (secure : url.scheme = "https")

include made read

theorem host?_of_ofParts : identity.issuer.metadata.host? = url.hostText? := by
  obtain ⟨-, -, rfl, -⟩ := of_ofParts made
  rw [IssuerMetadata.host?, read]
  rfl

include secure

theorem exists_name : ∃ (scheme : IdentityScheme) (host : Url.Host), Url.Recurs host ∧
    url.hostText? = some host.text ∧
      identity.name = scheme.name ++ "://" ++ identity.config.clientId ++ "@" ++ host.text := by
  have special : Url.Kind.ofScheme url.scheme = .special := by
    rw [secure]
    decide
  obtain ⟨host, known, recurs⟩ := Url.exists_host_of_parse? read special
  have text := Url.hostText?_of_host known recurs.ne_empty
  have issuerHost : identity.issuer.metadata.host? = some host.text :=
    (host?_of_ofParts made read).trans text
  refine ⟨if identity.isUma then .uma2 else .oidc, host, recurs, text, ?_⟩
  rw [name, issuerHost]
  rfl

/-- Whatever path, query or fragment is put behind its name, a client is read from it. -/
theorem exists_parse_name (verbatim : Url.IsVerbatim identity.config.clientId.toList) {rest : String}
    (behind : Url.IsTail rest.toList) : ∃ uri host, IdentityUri.parse (identity.name ++ rest) = .ok uri ∧
      uri.clientId = some identity.config.clientId ∧ uri.host = some host ∧ url.hostText? = some host := by
  obtain ⟨scheme, host, recurs, text, named⟩ := exists_name made read secure
  obtain ⟨uri, parsed, client, uriHost⟩ := IdentityUri.exists_parse_of_isVerbatim scheme recurs verbatim
    ((equipped_of_ofParts made).met .clientId) behind
  rw [← named] at parsed
  exact ⟨uri, host.text, parsed, client, uriHost, text⟩

theorem isKnown_of_isVerbatim (verbatim : Url.IsVerbatim identity.config.clientId.toList) :
    identity.IsKnown url := by
  obtain ⟨uri, host, parsed, client, uriHost, text⟩ :=
    exists_parse_name made read secure verbatim (show Url.IsTail "".toList from Url.isTail_nil)
  rw [String.append_empty] at parsed
  refine ⟨⟨uri, host, parsed, client, uriHost, text⟩, fun target => ?_⟩
  have sameHost : uri.host = identity.issuer.metadata.host? := by
    rw [uriHost, host?_of_ofParts made read, text]
  have self : identity.ensureSelf identity.name = .ok () :=
    ensureSelf_eq_ok.mpr ⟨uri, parsed, client, sameHost⟩
  exact (equipped_of_ofParts made).requestAccess_supported self target

theorem isMistaken_of_not_isVerbatim (mangled : ¬ Url.IsVerbatim identity.config.clientId.toList) :
    identity.IsMistaken := by
  obtain ⟨scheme, host, recurs, -, named⟩ := exists_name made read secure
  have misread (uri : IdentityUri) (parsed : IdentityUri.parse identity.name = .ok uri) :
      uri.clientId ≠ some identity.config.clientId := by
    intro client
    rw [named] at parsed
    exact mangled (IdentityUri.isVerbatim_of_parse recurs parsed client)
  refine ⟨misread, refused_of_ensureSelf (ensureSelf_of_ne_ok fun self => ?_)⟩
  obtain ⟨uri, parsed, client, -⟩ := ensureSelf_eq_ok.mp self
  exact misread uri parsed client

end

/-- A client knows itself if its id stands for itself in a URL; otherwise it is mistaken. -/
theorem isKnown_iff (made : ofParts config metadata = .ok identity)
    (read : Url.parse? metadata.issuer = some url) (secure : url.scheme = "https") :
    (identity.IsKnown url ↔ Url.IsVerbatim config.clientId.toList) ∧
      (identity.IsMistaken ↔ ¬ Url.IsVerbatim config.clientId.toList) := by
  obtain ⟨-, sameConfig, -, -⟩ := of_ofParts made
  rw [← sameConfig]
  have known := isKnown_of_isVerbatim made read secure
  have mistaken := isMistaken_of_not_isVerbatim made read secure
  have exclusive (known : identity.IsKnown url) (mistaken : identity.IsMistaken) : False := by
    obtain ⟨uri, -, parsed, client, -⟩ := known.read
    exact mistaken.misread uri parsed client
  constructor
  · refine ⟨fun known => ?_, known⟩
    by_contra mangled
    exact exclusive known (mistaken mangled)
  · exact ⟨fun mistaken verbatim => exclusive (known verbatim) mistaken, mistaken⟩

end ClientIdentity

namespace Namesake

open ClientIdentity

def location : String := "https://idp.example"

def config (id : String) : ClientConfig :=
  { Visit.options with issuer := some location, clientId := some id }.resolveWith none

def metadata : IssuerMetadata :=
  .ofIssuer location Visit.metadata.overrides

def url : Url :=
  { Visit.place "" with host := some (.domain "idp.example") }

def identity (id : String) : ClientIdentity where
  config := config id
  issuer := ⟨metadata⟩
  resource :=
    { Visit.identity.resource with
      issuer := ⟨metadata⟩
      grant := { Visit.identity.resource.grant with clientId := id } }

theorem parse?_location : Url.parse? location = some url := by
  decide +kernel

theorem plain_id_known : Url.IsVerbatim "api".toList ∧ (identity "api").IsKnown url := by
  have verbatim : Url.IsVerbatim "api".toList := by decide
  have made : ofParts (config "api") metadata = .ok (identity "api") := rfl
  exact ⟨verbatim, (isKnown_iff made parse?_location rfl).1.mpr verbatim⟩

/-- A client with a colon in its id, which may come from an identity URI where it is encoded, is not let
through to get a ticket. -/
theorem not_always_admitted : ¬ ∀ config metadata identity url, ofParts config metadata = .ok identity →
    Url.parse? metadata.issuer = some url → url.scheme = "https" →
      ∀ target, Raises (¬ ·.IsUnsupported) (identity.requestAccess identity.name target) := by
  intro always
  have made : ofParts (config "a:b") metadata = .ok (identity "a:b") := rfl
  have mistaken := isMistaken_of_not_isVerbatim made parse?_location rfl (by decide)
  have refused := mistaken.refused "oidc://api@idp.example" Caches.empty Visit.arrival
  exact always _ _ _ _ made parse?_location rfl _ _ _ _ (congrArg Outcome.result refused) ⟨_, rfl⟩

end Namesake

end BearerIdentity
