import BearerIdentity.Proofs.Sasl.SealedExchange

set_option autoImplicit false

namespace BearerIdentity

open Operation KeyExchange

variable {σ : Type}

namespace TicketSource

/-- The source, which also notes in its memory for which targets it is asked for a ticket. -/
def noting (source : TicketSource σ) : TicketSource (List String × σ) where
  name := source.name
  request := fun target => do
    Operation.revise fun (asked, memory) => (asked ++ [target], memory)
    Operation.onSecond (source.request target)

/-- Taking notes changes nothing but the notes. -/
theorem request_noting (source : TicketSource σ) (target : String) (asked : List String) (memory : σ)
    (environment : Environment) :
    source.noting.request target (asked, memory) environment =
      let outcome := source.request target memory environment
      ⟨outcome.result, (asked ++ [target], outcome.memory), outcome.environment⟩ := rfl

end TicketSource

namespace BearerClient

def noting (client : BearerClient σ) : BearerClient (List String × σ) where
  source := client.source.noting
  target := client.target
  host := client.host
  authzid := client.authzid
  stage := client.stage

/-- A client that has spoken has nothing more to say, whether it got a ticket or not. -/
theorem respond_spoken {client : BearerClient σ} (spoken : client.stage ≠ .ready) (challenge : Bytes)
    (memory : σ) (environment : Environment) :
    ∃ cause : SaslError, respond challenge (client, memory) environment =
      ⟨.error (.error (.sasl cause)), (client, memory),
        (environment.record .sasl .attempt).record .sasl .failure⟩ :=
  ⟨refusal client.stage, respond_refused (fun opens => spoken opens.1) memory environment⟩

end BearerClient

namespace SealedClient

open Dialogue (Run)

abbrev Step (σ : Type) : Type :=
  Dialogue.Step (SealedClient σ) σ

def noting (client : SealedClient σ) : SealedClient (List String × σ) where
  inner := client.inner.noting
  stage := client.stage

def requested (step : Step σ) : List String :=
  (respond step.message (step.party.noting, ([], step.memory)) step.environment).memory.2.1

def keys (step : Step σ) : KeyPair :=
  .ofBytes (step.environment.draw exponentLength).1

def answer (step : Step σ) : Except (Fault Error) AccessTicket :=
  (step.party.inner.source.request step.party.inner.target step.memory
    ((step.environment.record .sasl .attempt).record .sasl .attempt)).result

/-- The keys were used in vain, or the client inside has spoken: no output can follow. -/
def IsSpent (client : SealedClient σ) : Prop :=
  match client.stage with
  | .ready => False
  | .keySent keys => keys = none
  | .keyAgreed _ => client.inner.stage ≠ .ready
  | .complete _ => True

/-- The client opens the exchange with its public value. -/
structure Greets (keys : KeyPair) (step : Step σ) : Prop where
  ready : step.party.stage = .ready
  empty : step.message = []
  drawn : keys = SealedClient.keys step

/-- The client agrees with the server on a key, gets a ticket, and sends the message with the ticket in a
frame under that key. -/
structure Presents (keys : KeyPair) (session : Session) (step : Step σ) (output : Bytes) : Prop where
  sent : step.party.stage = .keySent (some keys)
  agreed : keys.agree step.message = .ok session
  framed : ∃ ticket nonce, answer step = .ok ticket ∧ nonce.length = Frame.nonceLength ∧
    (step.party.inner.message ticket).encode.length ≤ Frame.payloadLimit ∧
    output = session.sealed nonce (step.party.inner.message ticket).encode

/-- How a client may react to a message: its answer, what becomes of it, and for which targets tickets
are requested. -/
inductive Reacts (step : Step σ) :
    Except (Fault Error) Bytes → SealedClient σ → List String → Prop where
  | startled (ready : step.party.stage = .ready) (filled : step.message ≠ []) :
      Reacts step (.error (.error (.sasl .unexpectedChallenge))) step.party []
  | greeted (greets : Greets (keys step) step) :
      Reacts step (.ok (keys step).publicKey)
        { step.party with stage := .keySent (some (keys step)) } []
  | disagreed {keys : KeyPair} {cause : SaslError} (sent : step.party.stage = .keySent (some keys))
      (refused : keys.agree step.message = .error cause) :
      Reacts step (.error (.error (.sasl cause))) { step.party with stage := .keySent none } []
  | presented {keys : KeyPair} {session : Session} {output : Bytes}
      (presents : Presents keys session step output) :
      Reacts step (.ok output) ⟨{ step.party.inner with stage := .complete }, .complete session⟩
        [step.party.inner.target]
  /-- The client inside had no ticket to send, or the message does not fit into a frame. -/
  | withheld {keys : KeyPair} {session : Session} {fault : Fault Error} {stage : ClientStage}
      {targets : List String} (sent : step.party.stage = .keySent (some keys))
      (agreed : keys.agree step.message = .ok session) (spoken : stage ≠ .ready)
      (once : targets.length ≤ 1) :
      Reacts step (.error fault) ⟨{ step.party.inner with stage }, .keyAgreed session⟩ targets
  | spent {cause : SaslError} (spent : step.party.IsSpent) :
      Reacts step (.error (.error (.sasl cause))) step.party []

/-- Once the keys agree, the source of tickets is asked, and what it says decides. -/
theorem respond_asking {inner : BearerClient σ} {keys : KeyPair} {peer : Bytes} {session : Session}
    (ready : inner.stage = .ready) (agreed : keys.agree peer = .ok session) (memory : σ)
    (environment : Environment) :
    respond peer (⟨inner, .keySent (some keys)⟩, memory) environment =
      match inner.source.request inner.target memory
        ((environment.record .sasl .attempt).record .sasl .attempt) with
      | ⟨.ok ticket, memory, environment⟩ =>
        if Frame.payloadLimit < (inner.message ticket).encode.length then
          ⟨.error (.error (.sasl (.frame .payloadTooLong))),
            (⟨{ inner with stage := .complete }, .keyAgreed session⟩, memory),
            (environment.record .sasl .success).record .sasl .failure⟩
        else
          ⟨.ok (session.sealed (environment.draw Frame.nonceLength).1 (inner.message ticket).encode),
            (⟨{ inner with stage := .complete }, .complete session⟩, memory),
            ((environment.record .sasl .success).draw Frame.nonceLength).2.record .sasl .success⟩
      | ⟨.error (.error cause), memory, environment⟩ =>
        ⟨.error (.error cause), (⟨{ inner with stage := .requested }, .keyAgreed session⟩, memory),
          (environment.record .sasl .failure).record .sasl .failure⟩
      | ⟨.error .calendar, memory, environment⟩ =>
        ⟨.error .calendar, (⟨{ inner with stage := .requested }, .keyAgreed session⟩, memory),
          environment⟩ := by
  rw [respond_apply, observe_apply]
  simp only [agree_apply agreed, relay_apply, BearerClient.respond_apply, ready, List.isEmpty_nil,
    ite_true, observe_apply, BearerClient.sendTicket_apply]
  rcases inner.source.request inner.target memory
      ((environment.record .sasl .attempt).record .sasl .attempt) with
    ⟨(_ | cause) | ticket, memory₁, environment₁⟩
  · rfl
  · rfl
  · by_cases long : Frame.payloadLimit < (inner.message ticket).encode.length
    · simp only [long, ite_true]
    · simp only [long, ite_false]
      rfl

/-- Whatever comes of the ticket, nothing is asked of the source but the ticket. -/
theorem memory_respond_asking {inner : BearerClient σ} {keys : KeyPair} {peer : Bytes}
    {session : Session} (ready : inner.stage = .ready) (agreed : keys.agree peer = .ok session)
    (memory : σ) (environment : Environment) :
    (respond peer (⟨inner, .keySent (some keys)⟩, memory) environment).memory.2 =
      (inner.source.request inner.target memory
        ((environment.record .sasl .attempt).record .sasl .attempt)).memory := by
  rw [respond_asking ready agreed]
  rcases inner.source.request inner.target memory
      ((environment.record .sasl .attempt).record .sasl .attempt) with
    ⟨(_ | cause) | ticket, memory₁, environment₁⟩
  · rfl
  · rfl
  · by_cases long : Frame.payloadLimit < (inner.message ticket).encode.length
    · simp only [long, ite_true]
    · simp only [long, ite_false]

/-- A public value that the client does not agree with uses up its keys. -/
theorem respond_refused {inner : BearerClient σ} {keys : KeyPair} {peer : Bytes} {cause : SaslError}
    (refused : keys.agree peer = .error cause) (memory : σ) (environment : Environment) :
    respond peer (⟨inner, .keySent (some keys)⟩, memory) environment =
      ⟨.error (.error (.sasl cause)), (⟨inner, .keySent none⟩, memory),
        (environment.record .sasl .attempt).record .sasl .failure⟩ := by
  rw [respond_apply, observe_apply]
  simp only [agree, Operation.ofOption, succeed, Bind.bind, andThen, moveTo, revise, refused,
    Operation.ofExcept, Operation.fail, mapError, mapError_error, Fault.map]

/-- A client inside that has spoken before the keys agree is not asked again. -/
theorem respond_silent {inner : BearerClient σ} {keys : KeyPair} {peer : Bytes} {session : Session}
    (spoken : inner.stage ≠ .ready) (agreed : keys.agree peer = .ok session) (memory : σ)
    (environment : Environment) :
    ∃ cause : SaslError,
      (respond peer (⟨inner, .keySent (some keys)⟩, memory) environment).result =
        .error (.error (.sasl cause)) ∧
      (respond peer (⟨inner, .keySent (some keys)⟩, memory) environment).memory =
        (⟨inner, .keyAgreed session⟩, memory) := by
  obtain ⟨cause, said⟩ :=
    BearerClient.respond_spoken spoken [] memory (environment.record .sasl .attempt)
  refine ⟨cause, ?_⟩
  rw [respond_apply, observe_apply]
  simp only [agree_apply agreed, relay_apply, said, and_self]

/-- Whatever a spent client is told, it answers with an error, and neither it nor the memory changes. -/
theorem IsSpent.refuses {client : SealedClient σ} (spent : client.IsSpent) (challenge : Bytes)
    (memory : σ) (environment : Environment) :
    ∃ cause : SaslError,
      (respond challenge (client, memory) environment).result = .error (.error (.sasl cause)) ∧
      (respond challenge (client, memory) environment).memory = (client, memory) := by
  obtain ⟨inner, stage⟩ := client
  rw [respond_apply, observe_apply]
  cases stage with
  | ready => exact absurd spent id
  | keySent keys =>
    obtain rfl : keys = none := spent
    exact ⟨.failed, rfl, rfl⟩
  | keyAgreed session =>
    cases opened : session.decrypt challenge with
    | error cause =>
      refine ⟨cause, ?_⟩
      simp only [opened, Operation.ofExcept, Operation.fail, mapError, mapError_error, Fault.map,
        Bind.bind, andThen, and_self]
    | ok text =>
      obtain ⟨cause, said⟩ :=
        BearerClient.respond_spoken spent text memory (environment.record .sasl .attempt)
      refine ⟨cause, ?_⟩
      simp only [opened, Operation.ofExcept, succeed, mapError, mapError_ok, Bind.bind, andThen,
        relay_apply, said, and_self]
  | complete session => exact ⟨.alreadyComplete, rfl, rfl⟩

/-- A client that is ready does not take a challenge with something in it. -/
theorem respond_startled {inner : BearerClient σ} {challenge : Bytes} (filled : challenge ≠ [])
    (memory : σ) (environment : Environment) :
    respond challenge (⟨inner, .ready⟩, memory) environment =
      ⟨.error (.error (.sasl .unexpectedChallenge)), (⟨inner, .ready⟩, memory),
        (environment.record .sasl .attempt).record .sasl .failure⟩ := by
  rw [respond_apply, observe_apply]
  simp only [List.isEmpty_eq_false_iff.mpr filled, Bool.false_eq_true, ite_false]
  rfl

/-- A client whose keys agree has spoken, unless it has yet to be asked. -/
def IsSettled (client : SealedClient σ) : Prop :=
  ∀ session, client.stage = .keyAgreed session → client.inner.stage ≠ .ready

theorem reacts_of_spent (step : Step σ) (spent : step.party.IsSpent) :
    Reacts step (step.result respond) (step.next respond) (requested step) := by
  -- The client that takes notes stands where the client stands, and refuses as well.
  have unheard : step.party.noting.IsSpent := spent
  obtain ⟨cause, answer, unmoved⟩ := spent.refuses step.message step.memory step.environment
  obtain ⟨-, -, noted⟩ := unheard.refuses step.message ([], step.memory) step.environment
  simp only [Dialogue.Step.result, Dialogue.Step.next, Dialogue.Step.outcome, requested, answer, unmoved,
    noted]
  exact .spent spent

section Agreed

variable {inner : BearerClient σ} {keys : KeyPair} {peer : Bytes} {session : Session}

/-- Once the keys agree, one ticket is requested, for the target. -/
theorem requested_asking (ready : inner.stage = .ready) (agreed : keys.agree peer = .ok session)
    (memory : σ) (environment : Environment) :
    requested ⟨⟨inner, .keySent (some keys)⟩, peer, memory, environment⟩ = [inner.target] := by
  have listening : inner.noting.stage = .ready := ready
  have noted := memory_respond_asking listening agreed ([], memory) environment
  rw [show inner.noting.source = inner.source.noting from rfl, TicketSource.request_noting] at noted
  exact congrArg Prod.fst noted

theorem reacts_asking (ready : inner.stage = .ready) (agreed : keys.agree peer = .ok session)
    (memory : σ) (environment : Environment) :
    Reacts (⟨⟨inner, .keySent (some keys)⟩, peer, memory, environment⟩ : Step σ)
      (respond peer (⟨inner, .keySent (some keys)⟩, memory) environment).result
      (respond peer (⟨inner, .keySent (some keys)⟩, memory) environment).memory.1 [inner.target] := by
  rw [respond_asking ready agreed]
  rcases said : inner.source.request inner.target memory
      ((environment.record .sasl .attempt).record .sasl .attempt) with
    ⟨(_ | cause) | ticket, memory₁, environment₁⟩
  · exact .withheld rfl agreed (by simp) (by simp)
  · exact .withheld rfl agreed (by simp) (by simp)
  · by_cases long : Frame.payloadLimit < (inner.message ticket).encode.length
    · simp only [long, ite_true]
      exact .withheld rfl agreed (by simp) (by simp)
    · simp only [long, ite_false]
      exact .presented ⟨rfl, agreed, ticket, _, congrArg Outcome.result said,
        environment₁.length_draw _, Nat.le_of_not_lt long, rfl⟩

theorem reacts_silent (spoken : inner.stage ≠ .ready) (agreed : keys.agree peer = .ok session)
    (memory : σ) (environment : Environment) :
    Reacts (⟨⟨inner, .keySent (some keys)⟩, peer, memory, environment⟩ : Step σ)
      (respond peer (⟨inner, .keySent (some keys)⟩, memory) environment).result
      (respond peer (⟨inner, .keySent (some keys)⟩, memory) environment).memory.1
      (requested ⟨⟨inner, .keySent (some keys)⟩, peer, memory, environment⟩) := by
  have unheard : inner.noting.stage ≠ .ready := spoken
  obtain ⟨cause, answer, silent⟩ := respond_silent spoken agreed memory environment
  obtain ⟨-, -, noted⟩ := respond_silent unheard agreed ([], memory) environment
  simp only [requested, noting, answer, silent, noted]
  exact .withheld rfl agreed spoken (by simp)

end Agreed

/-- Every step of a settled client is one of these reactions. -/
theorem reacts (step : Step σ) (settled : step.party.IsSettled) :
    Reacts step (step.result respond) (step.next respond) (requested step) := by
  have refusal := reacts_of_spent step
  obtain ⟨⟨inner, stage⟩, message, memory, environment⟩ := step
  cases stage with
  | ready =>
    by_cases empty : message = []
    · subst empty
      simp only [Dialogue.Step.result, Dialogue.Step.next, Dialogue.Step.outcome, requested, noting,
        respond_ready]
      exact .greeted ⟨rfl, rfl, rfl⟩
    · simp only [Dialogue.Step.result, Dialogue.Step.next, Dialogue.Step.outcome, requested, noting,
        respond_startled empty]
      exact .startled rfl empty
  | keySent keys =>
    cases keys with
    | none => exact refusal rfl
    | some keys =>
      cases agreed : keys.agree message with
      | error cause =>
        simp only [Dialogue.Step.result, Dialogue.Step.next, Dialogue.Step.outcome, requested, noting,
          respond_refused agreed]
        exact .disagreed rfl agreed
      | ok session =>
        by_cases ready : inner.stage = .ready
        · rw [requested_asking ready agreed]
          exact reacts_asking ready agreed memory environment
        · exact reacts_silent ready agreed memory environment
  | keyAgreed session => exact refusal (settled session rfl)
  | complete session => exact refusal trivial

def outputs (steps : List (Step σ)) : List Bytes :=
  steps.filterMap fun step => (step.result respond).toOption

theorem outputs_of_ok {step : Step σ} {output : Bytes} (said : step.result respond = .ok output)
    (steps : List (Step σ)) : outputs (step :: steps) = output :: outputs steps :=
  List.filterMap_cons_some (congrArg Except.toOption said)

theorem outputs_of_error {step : Step σ} {fault : Fault Error}
    (failed : step.result respond = .error fault) (steps : List (Step σ)) :
    outputs (step :: steps) = outputs steps :=
  List.filterMap_cons_none (congrArg Except.toOption failed)

def allRequested (steps : List (Step σ)) : List String :=
  steps.flatMap requested

theorem allRequested_cons (step : Step σ) (steps : List (Step σ)) :
    allRequested (step :: steps) = requested step ++ allRequested steps :=
  List.flatMap_cons

/-- The keys were drawn to open the exchange in one of the steps. -/
def Greeted (keys : KeyPair) (steps : List (Step σ)) : Prop :=
  ∃ greeting ∈ steps, Greets keys greeting

/-- A frame with the message was sent under the key of the session in one of the steps, and the client
inside knows. -/
def Presented (session : Session) (steps : List (Step σ)) (inner : BearerClient σ) : Prop :=
  inner.isComplete = true ∧
    ∃ keys, ∃ presentation ∈ steps, ∃ output, Presents keys session presentation output

theorem Presented.onward {session : Session} {steps : List (Step σ)} {inner : BearerClient σ}
    (presented : Presented session steps inner) (step : Step σ) :
    Presented session (step :: steps) inner := by
  obtain ⟨complete, keys, presentation, listed, presents⟩ := presented
  exact ⟨complete, keys, presentation, List.mem_cons_of_mem step listed, presents⟩

/-- Where a client may stand after the steps of a run. -/
inductive Standing (steps : List (Step σ)) : SealedClient σ → Prop where
  | ready {inner : BearerClient σ} (silent : outputs steps = []) (unasked : allRequested steps = []) :
      Standing steps ⟨inner, .ready⟩
  | greeted {inner : BearerClient σ} {keys : KeyPair} (said : outputs steps = [keys.publicKey])
      (greeted : Greeted keys steps) (unasked : allRequested steps = []) :
      Standing steps ⟨inner, .keySent (some keys)⟩
  | spent {client : SealedClient σ} (spent : client.IsSpent) (said : outputs steps ≠ [])
      (once : (allRequested steps).length ≤ 1)
      (presented : ∀ session, client.stage = .complete session →
        Presented session steps client.inner) :
      Standing steps client

namespace Standing

variable {steps : List (Step σ)} {client : SealedClient σ} {step : Step σ}

theorem isSettled (standing : Standing steps client) : client.IsSettled := by
  intro session agreed
  cases standing with
  | ready => cases agreed
  | greeted => cases agreed
  | spent spent =>
    rw [IsSpent, agreed] at spent
    exact spent

/-- A client that is ready has said nothing. -/
theorem silent_of_ready (standing : Standing steps client) (ready : client.stage = .ready) :
    outputs steps = [] ∧ allRequested steps = [] := by
  cases standing with
  | ready silent unasked => exact ⟨silent, unasked⟩
  | greeted => cases ready
  | spent spent =>
    rw [IsSpent, ready] at spent
    exact absurd spent id

/-- A client that waits for the server's public value has said its own, and nothing else. -/
theorem greeted_of_keySent (standing : Standing steps client) {keys : KeyPair}
    (sent : client.stage = .keySent (some keys)) :
    outputs steps = [keys.publicKey] ∧ Greeted keys steps ∧ allRequested steps = [] := by
  cases standing with
  | ready => cases sent
  | greeted said greeted unasked =>
    cases sent
    exact ⟨said, greeted, unasked⟩
  | spent spent =>
    rw [IsSpent, sent] at spent
    cases spent

theorem of_isSpent (standing : Standing steps client) (spent : client.IsSpent) :
    outputs steps ≠ [] ∧ (allRequested steps).length ≤ 1 ∧
      ∀ session, client.stage = .complete session → Presented session steps client.inner := by
  cases standing with
  | ready => exact absurd spent id
  | greeted => cases spent
  | spent _ said once presented => exact ⟨said, once, presented⟩

theorem once (standing : Standing steps client) : (allRequested steps).length ≤ 1 := by
  cases standing with
  | ready _ unasked | greeted _ _ unasked =>
    rw [unasked]
    exact Nat.zero_le 1
  | spent _ _ once => exact once

/-- A client is complete only when its message is sent. -/
theorem presented (standing : Standing steps client) (complete : client.isComplete = true) :
    ∃ session, client.stage = .complete session ∧ Presented session steps client.inner := by
  cases standing with
  | ready | greeted => cases complete
  | spent _ _ _ presented =>
    unfold isComplete at complete
    split at complete
    · rename_i session stage
      exact ⟨session, stage, presented session stage⟩
    · cases complete

/-- What a step makes of where a client stands. -/
theorem after (standing : Standing steps step.party) :
    Standing (step :: steps) (step.next respond) := by
  have reaction := reacts step standing.isSettled
  have asked := allRequested_cons step steps
  generalize said : step.result respond = result at reaction
  generalize step.next respond = client at reaction ⊢
  generalize requested step = targets at reaction asked
  cases reaction with
  | startled ready filled =>
    obtain ⟨silent, unasked⟩ := standing.silent_of_ready ready
    have party : step.party = ⟨step.party.inner, .ready⟩ := by rw [← ready]
    rw [party]
    exact .ready ((outputs_of_error said steps).trans silent) (asked.trans unasked)
  | greeted greets =>
    obtain ⟨silent, unasked⟩ := standing.silent_of_ready greets.ready
    refine .greeted ?_ ⟨step, List.mem_cons_self, greets⟩ (asked.trans unasked)
    rw [outputs_of_ok said, silent]
  | disagreed sent refused =>
    obtain ⟨spoken, _, unasked⟩ := standing.greeted_of_keySent sent
    refine .spent rfl ?_ ?_ nofun
    · rw [outputs_of_error said, spoken]
      exact List.cons_ne_nil _ _
    · rw [asked, unasked]
      exact Nat.zero_le 1
  | presented presents =>
    obtain ⟨_, _, unasked⟩ := standing.greeted_of_keySent presents.sent
    refine .spent trivial ?_ ?_ ?_
    · rw [outputs_of_ok said]
      exact List.cons_ne_nil _ _
    · rw [asked, unasked]
      exact Nat.le_refl 1
    · rintro session ⟨⟩
      exact ⟨rfl, _, step, List.mem_cons_self, _, presents⟩
  | withheld sent agreed spoken once =>
    obtain ⟨heard, _, unasked⟩ := standing.greeted_of_keySent sent
    refine .spent spoken ?_ ?_ nofun
    · rw [outputs_of_error said, heard]
      exact List.cons_ne_nil _ _
    · rw [asked, unasked, List.append_nil]
      exact once
  | spent spent =>
    obtain ⟨spoken, once, presented⟩ := standing.of_isSpent spent
    refine .spent spent ?_ ?_ fun session complete => (presented session complete).onward step
    · rwa [outputs_of_error said]
    · rwa [asked]

end Standing

/-- A client that is given messages one after another always stands somewhere. -/
theorem standing_of_run {inner : BearerClient σ} {steps : List (Step σ)} {client : SealedClient σ}
    (run : Run respond (.new inner) steps client) : Standing steps client := by
  induction run with
  | start => exact .ready rfl rfl
  | step step run answered before => exact before.after

/-- A spent client stays as it is and says nothing more. -/
theorem silent_of_run {client last : SealedClient σ} {later : List (Step σ)} (spent : client.IsSpent)
    (run : Run respond client later last) : last = client ∧ outputs later = [] := by
  induction run with
  | start => exact ⟨rfl, rfl⟩
  | step step run answered before =>
    obtain ⟨same, silent⟩ := before
    obtain ⟨cause, refused, unmoved⟩ :=
      (same ▸ spent : step.party.IsSpent).refuses step.message step.memory step.environment
    refine ⟨(congrArg Prod.fst unmoved).trans same, ?_⟩
    rw [outputs_of_error refused, silent]

/-- A step that errs once the client has spoken leaves it spent, and no more complete than it was. -/
theorem Standing.spent_of_error {steps : List (Step σ)} {step : Step σ} {fault : Fault Error}
    (standing : Standing steps step.party) (spoken : outputs steps ≠ [])
    (failed : step.result respond = .error fault) :
    (step.next respond).IsSpent ∧ (step.next respond).isComplete = step.party.isComplete := by
  have reaction := reacts step standing.isSettled
  rw [failed] at reaction
  generalize step.next respond = client at reaction ⊢
  generalize requested step = targets at reaction
  cases reaction with
  | startled ready filled => exact absurd (standing.silent_of_ready ready).1 spoken
  | disagreed sent refused => exact ⟨rfl, by rw [isComplete, isComplete, sent]⟩
  | withheld sent agreed spoken once => exact ⟨spoken, by rw [isComplete, isComplete, sent]⟩
  | spent spent => exact ⟨spent, rfl⟩

/-- How a client behaves that has been given so many messages. -/
structure Conduct (steps : List (Step σ)) (client : SealedClient σ) : Prop where
  /-- Even with one more step, one ticket is requested at most. -/
  once : ∀ step : Step σ, step.party = client → (allRequested (step :: steps)).length ≤ 1
  /-- A ticket is requested only when the keys that open the exchange agree with the server's public
  value. -/
  agreed : ∀ step : Step σ, step.party = client → requested step ≠ [] →
    ∃ keys session, client.stage = .keySent (some keys) ∧ Greeted keys steps ∧
      keys.agree step.message = .ok session
  /-- The first thing it says is its public value at full length, the next a frame under the session that
  was agreed on, and there is no third. -/
  speaks : ∀ step : Step σ, step.party = client → ∀ output, step.result respond = .ok output →
    (∃ keys, outputs steps = [] ∧ Greets keys step ∧ output = keys.publicKey ∧
      output.length = 512) ∨
    (∃ keys session, outputs steps = [keys.publicKey] ∧ Greeted keys steps ∧
      Presents keys session step output)
  /-- If it is complete, so is the client inside, and the session is there under which the frame was
  sent. -/
  complete : (SaslClient.sealed client).isComplete = true →
    ∃ session, client.stage = .complete session ∧ Presented session steps client.inner
  /-- An error after it has spoken is final: it is no nearer to completion and says nothing more. -/
  final : outputs steps ≠ [] → ∀ step : Step σ, step.party = client → ∀ fault,
    step.result respond = .error fault → ∀ later last, Run respond (step.next respond) later last →
      (SaslClient.sealed last).isComplete = (SaslClient.sealed client).isComplete ∧ outputs later = []
  /-- As long as it is ready, a challenge with something in it is rejected and changes nothing. -/
  unmoved : client.stage = .ready → ∀ step : Step σ, step.party = client → step.message ≠ [] →
    step.result respond = .error (.error (.sasl .unexpectedChallenge)) ∧
      (step.outcome respond).memory = (client, step.memory)

/-- Whatever a client is told, and whatever its source of tickets does, it presents one ticket at most, and
only in a frame. -/
theorem presents_once {inner : BearerClient σ} {steps : List (Step σ)} {client : SealedClient σ}
    (run : Run respond (.new inner) steps client) : Conduct steps client := by
  have standing := standing_of_run run
  exact {
    once := by
      rintro step rfl
      exact standing.after.once
    agreed := by
      rintro step rfl asked
      have reaction := reacts step standing.isSettled
      generalize step.result respond = result at reaction
      generalize step.next respond = client at reaction
      generalize requested step = targets at reaction asked
      cases reaction with
      | startled | greeted | disagreed | spent => exact absurd rfl asked
      | presented presents =>
        obtain ⟨_, greeted, _⟩ := standing.greeted_of_keySent presents.sent
        exact ⟨_, _, presents.sent, greeted, presents.agreed⟩
      | withheld sent agreed =>
        obtain ⟨_, greeted, _⟩ := standing.greeted_of_keySent sent
        exact ⟨_, _, sent, greeted, agreed⟩
    speaks := by
      rintro step rfl output said
      have reaction := reacts step standing.isSettled
      generalize step.result respond = result at reaction said
      generalize step.next respond = client at reaction
      generalize requested step = targets at reaction
      cases reaction with
      | startled | disagreed | withheld | spent => cases said
      | greeted greets =>
        have silent := (standing.silent_of_ready greets.ready).1
        have full := KeyPair.length_publicKey (keys step)
        injection said with same
        exact .inl ⟨_, silent, greets, same.symm, same ▸ full⟩
      | presented presents =>
        injection said with same
        obtain ⟨said, greeted, _⟩ := standing.greeted_of_keySent presents.sent
        exact .inr ⟨_, _, said, greeted, same ▸ presents⟩
    complete := standing.presented
    final := by
      rintro spoken step rfl fault failed later last run
      obtain ⟨spent, unfinished⟩ := standing.spent_of_error spoken failed
      obtain ⟨rfl, silent⟩ := silent_of_run spent run
      exact ⟨unfinished, silent⟩
    unmoved := by
      rintro ready step rfl filled
      obtain ⟨⟨inner, stage⟩, message, memory, environment⟩ := step
      obtain rfl : stage = .ready := ready
      simp only [Dialogue.Step.result, Dialogue.Step.outcome, respond_startled filled, and_self] }

end SealedClient

namespace Misdirected

open Dialogue (Run)
open SealedClient
open Whisper (near)

def waiting : SealedClient Unit :=
  ⟨near.context.plainClient, .keySent (some near.clientKeys)⟩

def given (message : Bytes) (client : SealedClient Unit) : SealedClient.Step Unit :=
  ⟨client, message, (), Whisper.environment []⟩

theorem greeted : near.greeting.next respond = waiting := by
  rw [Dialogue.Step.next, SealedExchange.greeting_outcome]
  rfl

theorem said : near.greeting.result respond = .ok near.clientKeys.publicKey := by
  rw [Dialogue.Step.result, SealedExchange.greeting_outcome]

theorem run_greeting : Run respond (.new near.context.plainClient) [near.greeting] waiting := by
  rw [← greeted]
  refine .step near.greeting .start (Dialogue.Step.isAnswered_iff.mpr ?_)
  rw [said]
  simp

theorem refused : (given [1] waiting).outcome respond =
    ⟨.error (.error (.sasl .invalidPublicKey)), (⟨near.context.plainClient, .keySent none⟩, ()),
      ((Whisper.environment []).record .sasl .attempt).record .sasl .failure⟩ :=
  respond_refused (by decide +kernel) _ _

theorem run_retry {client : SealedClient Unit} (spent : client.IsSpent) (message : Bytes) :
    Run respond client [given message client] ((given message client).next respond) := by
  refine .step (given message client) .start (Dialogue.Step.isAnswered_iff.mpr ?_)
  obtain ⟨cause, failed, -⟩ := spent.refuses message () (Whisper.environment [])
  rw [Dialogue.Step.result, Dialogue.Step.outcome, given, failed]
  simp

/-- A client that is sent a public value of no use. It does not take the server's own after that. -/
theorem refusal_is_final :
    near.clientKeys.agree near.serverKeys.publicKey = .ok near.session ∧
      outputs [near.greeting] = [near.clientKeys.publicKey] ∧
      (given [1] waiting).result respond = .error (.error (.sasl .invalidPublicKey)) ∧
      (SaslClient.sealed ((given near.serverKeys.publicKey
        ((given [1] waiting).next respond)).next respond)).isComplete = false ∧
      Conduct [near.greeting] waiting := by
  have conduct := presents_once run_greeting
  have opened : outputs [near.greeting] = [near.clientKeys.publicKey] := outputs_of_ok said []
  have failed : (given [1] waiting).result respond = .error (.error (.sasl .invalidPublicKey)) := by
    rw [Dialogue.Step.result, refused]
  have spent : ((given [1] waiting).next respond).IsSpent := by
    rw [Dialogue.Step.next, refused]
    rfl
  have spoken : outputs [near.greeting] ≠ [] := by
    rw [opened]
    exact List.cons_ne_nil _ _
  have final := conduct.final spoken (given [1] waiting) rfl _ failed _ _
    (run_retry spent near.serverKeys.publicKey)
  have unfinished : (SaslClient.sealed waiting).isComplete = false := rfl
  exact ⟨SealedExchange.client_agrees Whisper.server_sound, opened, failed,
    final.1.trans unfinished, conduct⟩

end Misdirected

end BearerIdentity
