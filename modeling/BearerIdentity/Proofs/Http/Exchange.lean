import BearerIdentity.Http.Exchange
import BearerIdentity.Json.Printer
import BearerIdentity.Proofs.Operation.Invariant

set_option autoImplicit false

namespace BearerIdentity

def Response.ofValue (value : Json.Value) : Response where
  status := 200
  retryAfter := none
  body := Utf8.ofString value.print

/-- A request was sent after those in `since`, and the network answered it with a response. -/
def Environment.Answered (environment : Environment) (since : List Request) (request : Request)
    (response : Response) : Prop :=
  ∃ earlier, since <+: earlier ∧ earlier ++ [request] <+: environment.sent ∧
    environment.network earlier request = .ok response

theorem Environment.Answered.later {earlier later : Environment} {since : List Request}
    {request : Request} {response : Response} (answered : earlier.Answered since request response)
    (extends_ : earlier.Extends later) : later.Answered since request response := by
  obtain ⟨before, after, sent, answer⟩ := answered
  exact ⟨before, after, sent.trans extends_.sent, by rw [extends_.network]; exact answer⟩

theorem Environment.Answered.since {environment : Environment} {since earlier : List Request}
    {request : Request} {response : Response}
    (answered : environment.Answered since request response) (begins : earlier <+: since) :
    environment.Answered earlier request response := by
  obtain ⟨before, after, rest⟩ := answered
  exact ⟨before, begins.trans after, rest⟩

/-- An answer in the present is an answer to a request that follows all those sent before. -/
theorem Environment.answered_exchange {environment : Environment} {request : Request}
    {response : Response} (answer : environment.network environment.sent request = .ok response) :
    (environment.exchange request).2.Answered environment.sent request response :=
  ⟨environment.sent, List.prefix_rfl, List.prefix_rfl, answer⟩

namespace Exchange

open Operation

variable {σ α : Type} {decoder : Json.Decoder α} {refusal : Response → Error} {request : Request}

theorem fetch_eq_ok {memory memory' : σ} {environment environment' : Environment} {value : α} :
    fetch decoder refusal request memory environment = ⟨.ok value, memory', environment'⟩ ↔
      ∃ response, environment.network environment.sent request = .ok response ∧
        response.isSuccess = true ∧ response.json decoder = .ok value ∧
        memory = memory' ∧ (environment.exchange request).2 = environment' := by
  unfold fetch
  simp only [bind_eq_ok, mapError_eq_ok, send_eq_ok]
  constructor
  · rintro ⟨response, _, _, ⟨answer, rfl, rfl⟩, rest⟩
    split at rest
    · rename_i success
      simp only [mapError_eq_ok, ofExcept_eq_ok] at rest
      exact ⟨response, answer, success, rest⟩
    · simp only [fail_eq_ok] at rest
  · rintro ⟨response, answer, success, read, rfl, rfl⟩
    refine ⟨response, _, _, ⟨answer, rfl, rfl⟩, ?_⟩
    rw [if_pos success]
    exact mapError_eq_ok.mpr (ofExcept_eq_ok.mpr ⟨read, rfl, rfl⟩)

def reading (decoder : Json.Decoder α) (refusal : Response → Error) :
    Except TransportError Response → Except Error α
  | .error flaw => .error (.transport flaw)
  | .ok response =>
    if response.isSuccess then (response.json decoder).mapError .transient
    else .error (refusal response)

theorem reading_eq_ok {answer : Except TransportError Response} {value : α} :
    reading decoder refusal answer = .ok value ↔ ∃ response, answer = .ok response ∧
      response.isSuccess = true ∧ response.json decoder = .ok value := by
  cases answer with
  | error flaw => simp [reading]
  | ok response =>
    simp only [reading, Except.ok.injEq, exists_eq_left']
    by_cases success : response.isSuccess = true
    · simp only [success, ite_true, true_and]
      cases response.json decoder <;> simp
    · simp [success]

/-- One request is sent, whatever becomes of it. -/
theorem fetch_apply (memory : σ) (environment : Environment) :
    fetch decoder refusal request memory environment =
      ⟨(reading decoder refusal (environment.network environment.sent request)).mapError .error, memory,
        (environment.exchange request).2⟩ := by
  simp only [fetch, Bind.bind, andThen, mapError, send, Environment.exchange]
  cases environment.network environment.sent request with
  | error flaw => rfl
  | ok response =>
    by_cases success : response.isSuccess = true
    · simp only [reading, mapError_ok, success, ite_true]
      cases response.json decoder <;> rfl
    · simp only [reading, mapError_ok, success]
      rfl

theorem fetch_keeps {kept : σ → Environment → Prop} (lasting : Lasting kept) :
    Keeps kept (fetch decoder refusal request) := by
  refine .bind (.mapError (.send lasting request)) fun response => ?_
  split
  · exact .mapError (.ofExcept _)
  · exact .fail _

theorem getJson_keeps {kept : σ → Environment → Prop} (lasting : Lasting kept) (url : Url) :
    Keeps kept (getJson decoder url) :=
  fetch_keeps lasting

theorem postForm_keeps {kept : σ → Environment → Prop} (lasting : Lasting kept) :
    Keeps kept (postForm decoder request) :=
  fetch_keeps lasting

end Exchange

end BearerIdentity
