import BearerIdentity.Client.IdentityUri

set_option autoImplicit false

namespace BearerIdentity.IdentityUri

variable {uri : IdentityUri} {text user : String}

def ofUrl (url : Url) (scheme : IdentityScheme) (user : String) (secret : Option String) : IdentityUri where
  scheme := scheme
  clientId := if user.isEmpty then none else some user
  clientSecret := secret
  host := url.hostText?
  port := url.port
  path := String.ofList (Blank.dropEnd (· == '/') url.path.text.toList)
  params := url.query.elim [] Form.decode

theorem parse_eq_ok : parse text = .ok uri ↔
    ∃ url scheme user secret, Url.parse? text = some url ∧
      IdentityScheme.ofName? url.scheme = some scheme ∧ decodeCredential url.username = .ok user ∧
        decodeCredential? url.password = .ok secret ∧ uri = ofUrl url scheme user secret := by
  constructor
  · intro read
    unfold parse at read
    split at read
    · cases read
    · rename_i url known
      split at read
      · cases read
      · rename_i scheme named
        cases decoded : decodeCredential url.username with
        | error cause =>
          rw [decoded] at read
          cases read
        | ok user =>
          rw [decoded] at read
          cases password : decodeCredential? url.password with
          | error cause =>
            rw [password] at read
            cases read
          | ok secret =>
            rw [password] at read
            cases read
            exact ⟨url, scheme, user, secret, known, named, decoded, password, rfl⟩
  · rintro ⟨url, scheme, user, secret, known, named, decoded, password, rfl⟩
    simp only [parse, known, named, decoded, password]
    rfl

/-- The client that a URI names is the decoded user name. -/
theorem decodeCredential_of_parse (read : parse text = .ok uri) (named : uri.clientId = some user) :
    ∃ url, Url.parse? text = some url ∧ decodeCredential url.username = .ok user := by
  obtain ⟨url, scheme, found, secret, known, -, decoded, -, rfl⟩ := parse_eq_ok.mp read
  refine ⟨url, known, ?_⟩
  unfold ofUrl at named
  dsimp only at named
  split at named
  · cases named
  · cases named
    exact decoded

/-- A user part that is blank names no client. -/
theorem clientId_ne_blank (read : parse text = .ok uri) : uri.clientId ≠ some "" := by
  obtain ⟨url, scheme, found, secret, -, -, -, -, rfl⟩ := parse_eq_ok.mp read
  unfold ofUrl
  dsimp only
  split
  · nofun
  · rename_i filled
    rintro ⟨⟩
    exact filled rfl

end BearerIdentity.IdentityUri
