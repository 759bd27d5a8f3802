import BearerIdentity.Key.Source
import BearerIdentity.Proofs.Cache.Renewal
import BearerIdentity.Proofs.Http.Exchange

set_option autoImplicit false

namespace BearerIdentity

open Operation

namespace KeySet

def entries? (document : Json.Value) : Option (List Json.Value) :=
  (document.member? "keys").bind (·.items?)

theorem keys_of_ofDocument {document : Json.Value} {set : KeySet}
    (read : ofDocument document = .ok set) :
    ∃ entries, entries? document = some entries ∧ set.keys = entries.filterMap ofEntry? := by
  unfold ofDocument at read
  split at read
  · cases read
  · rename_i entries found
    split at read
    · cases read
    · cases read
      exact ⟨entries, found, rfl⟩

theorem ofEntry?_eq_some {entry : Json.Value} {key : WebKey} :
    ofEntry? entry = some key ↔
      Json.decodeFrom WebKey.decoder entry = .ok key ∧ key.isForSignatures = true := by
  unfold ofEntry?
  split
  · rename_i found decoded
    rw [decoded]
    constructor
    · intro given
      split at given
      · rename_i usable
        cases given
        exact ⟨rfl, usable⟩
      · cases given
    · rintro ⟨same, usable⟩
      cases same
      rw [if_pos usable]
  · rename_i flaw failed
    rw [failed]
    simp

theorem of_find? {set : KeySet} {kid : String} {now : Instant} {key : WebKey}
    (found : set.find? kid now = some key) :
    key ∈ set.keys ∧ key.id = some kid ∧ key.isValidAt now = true := by
  have fits := List.find?_some found
  simp only [Bool.and_eq_true, beq_iff_eq] at fits
  exact ⟨List.mem_of_find?_eq_some found, fits.1, fits.2⟩

end KeySet

namespace KeySource

variable (source : KeySource)

def Served (document : Json.Value) (environment : Environment) : Prop :=
  ∃ response, environment.Answered [] (.get source.endpoint) response ∧
    response.isSuccess = true ∧ response.json Json.decodeValue = .ok document

def Published (set : KeySet) (environment : Environment) : Prop :=
  ∃ document, source.Served document environment ∧ KeySet.ofDocument document = .ok set

def Backed (cache : Cache KeySet) (environment : Environment) : Prop :=
  cache.Holds source.Published environment

/-- What operations on the cache keep: it is backed, and nothing but requests happened since. -/
def Tended (since : Environment) (cache : Cache KeySet) (environment : Environment) : Prop :=
  source.Backed cache environment ∧ since.Proceeds environment

variable {source}

theorem Served.later {document : Json.Value} {earlier later : Environment}
    (served : source.Served document earlier) (extends_ : earlier.Extends later) :
    source.Served document later := by
  obtain ⟨response, answered, rest⟩ := served
  exact ⟨response, answered.later extends_, rest⟩

theorem Published.later {set : KeySet} {earlier later : Environment}
    (published : source.Published set earlier) (extends_ : earlier.Extends later) :
    source.Published set later := by
  obtain ⟨document, served, read⟩ := published
  exact ⟨document, served.later extends_, read⟩

theorem Backed.later {cache : Cache KeySet} {earlier later : Environment}
    (backed : source.Backed cache earlier) (extends_ : earlier.Extends later) :
    source.Backed cache later :=
  backed.mono fun _ published => published.later extends_

theorem Backed.tended {cache : Cache KeySet} {environment : Environment}
    (backed : source.Backed cache environment) : source.Tended environment cache environment :=
  ⟨backed, .refl environment⟩

theorem backed_ageing (age : Int) (environment : Environment) :
    source.Backed (Cache.ageing age) environment :=
  .of_none rfl rfl

theorem fetch_published {σ : Type} {memory memory' : σ} {environment environment' : Environment}
    {set : KeySet} (fetched : source.fetch memory environment = ⟨.ok set, memory', environment'⟩) :
    source.Published set environment' := by
  simp only [fetch, Exchange.getJson, bind_eq_ok, Exchange.fetch_eq_ok, mapError_eq_ok,
    ofExcept_eq_ok] at fetched
  obtain ⟨document, _, _, ⟨response, answer, success, body, -, rfl⟩, read, -, rfl⟩ := fetched
  obtain ⟨earlier, -, sent, same⟩ := Environment.answered_exchange answer
  exact ⟨document, ⟨response, ⟨earlier, List.nil_prefix, sent, same⟩, success, body⟩, read⟩

theorem fetch_keeps {σ : Type} {kept : σ → Environment → Prop} (lasting : Lasting kept) :
    Keeps kept (source.fetch : Operation Error σ KeySet) :=
  .bind (Exchange.getJson_keeps lasting _) fun _ => .mapError (.ofExcept _)

theorem fetches {σ : Type} {kept : σ → Environment → Prop} (lasting : Lasting kept) :
    source.renewal.Fetches source.Published kept where
  keeps := fetch_keeps lasting
  proceeds := fun _ => fetch_keeps (lasting_proceeds _) _ _ (.refl _)
  yields := fun _ fetched => fetch_published fetched
  lasting := lasting
  yields_lasting := fun _ _ _ published extends_ => published.later extends_

variable {since : Environment}

theorem onCache_keeps {α : Type} {operation : Operation Error (Cache KeySet × Unit) α}
    (keeps : Keeps (Renewal.Sound source.Published fun _ => since.Proceeds) operation) :
    Keeps (source.Tended since) (onCache operation) :=
  .mapError <| .onPart keeps (fun _ _ tended => tended) fun _ _ _ sound => sound

theorem keys_keeps : Keeps (source.Tended since) source.keys :=
  onCache_keeps (fetches (lasting_proceeds since)).get_keeps

theorem newKeys_keeps : Keeps (source.Tended since) source.newKeys :=
  onCache_keeps (fetches (lasting_proceeds since)).renew_keeps

theorem find_keeps_of {kept : Cache KeySet → Environment → Prop} (keys : Keeps kept source.keys)
    (newKeys : Keeps kept source.newKeys) (kid : String) : Keeps kept (source.find kid) := by
  refine .bind keys fun set => .bind .now fun now => ?_
  split
  · exact .succeed _
  · refine .bind .memory fun cache => ?_
    split
    · exact .fail _
    · exact .bind newKeys fun set => .ofOption _ _

theorem check_keeps_of {kept : Cache KeySet → Environment → Prop} (keys : Keeps kept source.keys)
    (newKeys : Keeps kept source.newKeys) (token : SignedToken) : Keeps kept (source.check token) :=
  .bind (.ofOption _ _) fun _ => .bind (.ofOption _ _) fun _ =>
    .bind (find_keeps_of keys newKeys _) fun _ => .ofExcept _

theorem check_keeps (token : SignedToken) : Keeps (source.Tended since) (source.check token) :=
  check_keeps_of keys_keeps newKeys_keeps token

variable {cache cache' : Cache KeySet} {environment environment' : Environment}

/-- A key that is found is one of the keys that were looked up, or else one of those that were then
fetched anew. -/
theorem find_cases {kid : String} {key : WebKey}
    (found : source.find kid cache environment = ⟨.ok key, cache', environment'⟩) :
    (∃ set, source.keys cache environment = ⟨.ok set, cache', environment'⟩ ∧
        set.find? kid environment'.now = some key) ∨
      ∃ set cache₁ environment₁ anew,
        source.keys cache environment = ⟨.ok set, cache₁, environment₁⟩ ∧
        source.newKeys cache₁ environment₁ = ⟨.ok anew, cache', environment'⟩ ∧
        anew.find? kid environment₁.now = some key := by
  simp only [find, bind_eq_ok, now_eq_ok] at found
  obtain ⟨set, cache₁, environment₁, given, _, _, _, ⟨rfl, rfl, rfl⟩, rest⟩ := found
  cases listed : set.find? kid environment₁.now with
  | some found =>
    simp only [listed, succeed_eq_ok] at rest
    obtain ⟨rfl, rfl, rfl⟩ := rest
    exact .inl ⟨set, given, listed⟩
  | none =>
    simp only [listed, bind_eq_ok, memory_eq_ok] at rest
    obtain ⟨_, _, _, ⟨rfl, rfl, rfl⟩, rest⟩ := rest
    split at rest
    · simp only [fail_eq_ok] at rest
    · simp only [bind_eq_ok, ofOption_eq_ok] at rest
      obtain ⟨anew, cache₂, environment₂, fetched, listed, rfl, rfl⟩ := rest
      exact .inr ⟨set, cache₁, environment₁, anew, given, fetched, listed⟩

theorem keys_published {set : KeySet} (backed : source.Backed cache environment)
    (given : source.keys cache environment = ⟨.ok set, cache', environment'⟩) :
    source.Published set environment' := by
  simp only [keys, onCache, mapError_eq_ok, alone, onPart_eq_ok] at given
  obtain ⟨whole, given, -⟩ := given
  exact (fetches (lasting_proceeds environment)).get_yields ⟨backed, .refl environment⟩ given

theorem newKeys_published {set : KeySet}
    (given : source.newKeys cache environment = ⟨.ok set, cache', environment'⟩) :
    source.Published set environment' := by
  simp only [newKeys, onCache, mapError_eq_ok, alone, onPart_eq_ok] at given
  obtain ⟨whole, given, -⟩ := given
  rw [Renewal.renew_apply] at given
  exact (fetches (lasting_proceeds environment)).refresh_yields (.refl environment) given

end KeySource

end BearerIdentity
