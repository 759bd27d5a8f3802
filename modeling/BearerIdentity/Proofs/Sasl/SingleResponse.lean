import BearerIdentity.Proofs.Sasl.SingleTicket

set_option autoImplicit false

namespace BearerIdentity

open Operation

variable {σ : Type}

namespace Dialogue

/-- Steps of which each finds the party as the one before has left it, the latest first, and what has become
of the party. Unlike a run, they may go on after an instant has left the calendar. -/
inductive Succession {τ : Type} (manner : Manner τ σ) (first : τ) : List (Step τ σ) → τ → Prop where
  | start : Succession manner first [] first
  | step {earlier : List (Step τ σ)} (step : Step τ σ) (before : Succession manner first earlier step.party) :
      Succession manner first (step :: earlier) (step.next manner)

end Dialogue

namespace BearerClient

open Dialogue (Succession)

abbrev Step (σ : Type) : Type :=
  Dialogue.Step (BearerClient σ) σ

def requested (step : Step σ) : List String :=
  (respond step.message (step.party.noting, ([], step.memory)) step.environment).memory.2.1

def inquiry (step : Step σ) : Outcome Error σ AccessTicket :=
  step.party.source.request step.party.target step.memory (step.environment.record .sasl .attempt)

/-- The client takes the challenge for the beginning of the exchange. -/
structure Opens (step : Step σ) : Prop where
  ready : step.party.stage = .ready
  empty : step.message = []

/-- How a client may react to a challenge: its answer, what becomes of it and of the memory, and for which
targets tickets are requested. -/
inductive Reacts (step : Step σ) :
    Except (Fault Error) Bytes → BearerClient σ × σ → List String → Prop where
  | refused (closed : ¬ Opens step) :
      Reacts step (.error (.error (.sasl (refusal step.party.stage)))) (step.party, step.memory) []
  | presented {ticket : AccessTicket} (opens : Opens step) (given : (inquiry step).result = .ok ticket) :
      Reacts step (.ok (step.party.message ticket).encode)
        ({ step.party with stage := .complete }, (inquiry step).memory) [step.party.target]
  | denied {fault : Fault Error} (opens : Opens step) (withheld : (inquiry step).result = .error fault) :
      Reacts step (.error fault) ({ step.party with stage := .requested }, (inquiry step).memory)
        [step.party.target]

theorem respond_opening {client : BearerClient σ} (ready : client.stage = .ready) (memory : σ)
    (environment : Environment) :
    respond [] (client, memory) environment =
      match client.source.request client.target memory (environment.record .sasl .attempt) with
      | ⟨.ok ticket, memory, environment⟩ =>
        ⟨.ok (client.message ticket).encode, ({ client with stage := .complete }, memory),
          environment.record .sasl .success⟩
      | ⟨.error (.error cause), memory, environment⟩ =>
        ⟨.error (.error cause), ({ client with stage := .requested }, memory),
          environment.record .sasl .failure⟩
      | ⟨.error .calendar, memory, environment⟩ =>
        ⟨.error .calendar, ({ client with stage := .requested }, memory), environment⟩ := by
  rw [respond_apply, ready]
  simp only [List.isEmpty_nil, ite_true, observe_apply, sendTicket_apply]
  rcases client.source.request client.target memory (environment.record .sasl .attempt) with
    ⟨(_ | cause) | ticket, memory₁, environment₁⟩ <;> rfl

/-- Whatever comes of the ticket, nothing is asked of the source but the ticket. -/
theorem memory_respond_opening {client : BearerClient σ} (ready : client.stage = .ready) (memory : σ)
    (environment : Environment) :
    (respond [] (client, memory) environment).memory.2 =
      (client.source.request client.target memory (environment.record .sasl .attempt)).memory := by
  rw [respond_opening ready]
  rcases client.source.request client.target memory (environment.record .sasl .attempt) with
    ⟨(_ | cause) | ticket, memory₁, environment₁⟩ <;> rfl

/-- A client that is ready requests one ticket when it is given the empty challenge, for its target. -/
theorem requested_of_opens {step : Step σ} (opens : Opens step) : requested step = [step.party.target] := by
  obtain ⟨client, challenge, memory, environment⟩ := step
  obtain ⟨ready, rfl⟩ := opens
  have listening : client.noting.stage = .ready := ready
  have noted := memory_respond_opening listening ([], memory) environment
  rw [show client.noting.source = client.source.noting from rfl, TicketSource.request_noting] at noted
  exact congrArg Prod.fst noted

theorem requested_of_closed {step : Step σ} (closed : ¬ Opens step) : requested step = [] := by
  have deaf : ¬ (step.party.noting.stage = .ready ∧ step.message = []) := fun open_ => closed ⟨open_.1, open_.2⟩
  rw [requested, respond_refused deaf]

/-- Every step is one of these reactions. -/
theorem reacts (step : Step σ) :
    Reacts step (step.result respond) (step.outcome respond).memory (requested step) := by
  by_cases opens : Opens step
  · rw [requested_of_opens opens]
    obtain ⟨client, challenge, memory, environment⟩ := step
    obtain ⟨ready, rfl⟩ := id opens
    have denied {fault : Fault Error} := @Reacts.denied _ _ fault opens
    have presented {ticket : AccessTicket} := @Reacts.presented _ _ ticket opens
    simp only [Dialogue.Step.result, Dialogue.Step.outcome, respond_opening ready]
    rcases said : client.source.request client.target memory (environment.record .sasl .attempt) with
      ⟨(_ | cause) | ticket, memory', environment'⟩
    · rw [inquiry, said] at denied
      exact denied rfl
    · rw [inquiry, said] at denied
      exact denied rfl
    · rw [inquiry, said] at presented
      exact presented rfl
  · rw [requested_of_closed opens, Dialogue.Step.result, Dialogue.Step.outcome,
      respond_refused fun open_ => opens ⟨open_.1, open_.2⟩]
    exact .refused opens

/-- In a step, the client answers with an error, nothing changes, and no ticket is requested. -/
structure Refuses (client : BearerClient σ) (cause : SaslError) (step : Step σ) : Prop where
  party : step.party = client
  answer : step.result respond = .error (.error (.sasl cause))
  unmoved : (step.outcome respond).memory = (client, step.memory)
  unasked : requested step = []

theorem refuses_of_closed {step : Step σ} (closed : ¬ Opens step) :
    Refuses step.party (refusal step.party.stage) step := by
  have refused := respond_refused (fun opens => closed ⟨opens.1, opens.2⟩) step.memory step.environment
  exact ⟨rfl, congrArg Outcome.result refused, congrArg Outcome.memory refused, requested_of_closed closed⟩

/-- A client that has spoken refuses every challenge. -/
theorem refuses_of_spoken {client : BearerClient σ} (spoken : client.stage ≠ .ready) {step : Step σ}
    (reached : step.party = client) : Refuses client (refusal client.stage) step := by
  subst reached
  exact refuses_of_closed fun opens => spoken opens.ready

theorem Refuses.next {client : BearerClient σ} {cause : SaslError} {step : Step σ}
    (refuses : Refuses client cause step) : step.next respond = client :=
  congrArg Prod.fst refuses.unmoved

/-- A client that waits is given a challenge with something in it. -/
structure Rejects (client : BearerClient σ) (step : Step σ) : Prop extends
    Refuses client .unexpectedChallenge step where
  filled : step.message ≠ []

/-- The steps of a client that is ready at first. It waits for the first empty challenge, requests a ticket
then, and refuses all later challenges. -/
inductive Course (first : BearerClient σ) : List (Step σ) → BearerClient σ → Prop where
  | waiting {steps : List (Step σ)} (rejected : ∀ step ∈ steps, Rejects first step) :
      Course first steps first
  | presented {later earlier : List (Step σ)} {opening : Step σ} {ticket : AccessTicket}
      (rejected : ∀ step ∈ earlier, Rejects first step) (party : opening.party = first)
      (empty : opening.message = []) (asked : requested opening = [first.target])
      (given : (inquiry opening).result = .ok ticket)
      (answer : opening.result respond =
        .ok (BearerMessage.mk first.authzid (some first.host) ticket.token.raw []).encode)
      (ended : ∀ step ∈ later, Refuses { first with stage := .complete } .alreadyComplete step) :
      Course first (later ++ opening :: earlier) { first with stage := .complete }
  | denied {later earlier : List (Step σ)} {opening : Step σ} {fault : Fault Error}
      (rejected : ∀ step ∈ earlier, Rejects first step) (party : opening.party = first)
      (empty : opening.message = []) (asked : requested opening = [first.target])
      (withheld : (inquiry opening).result = .error fault) (answer : opening.result respond = .error fault)
      (ended : ∀ step ∈ later, Refuses { first with stage := .requested } .failed step) :
      Course first (later ++ opening :: earlier) { first with stage := .requested }

/-- What a step makes of the course of the steps before it. -/
theorem Course.after {first : BearerClient σ} (ready : first.stage = .ready) {steps : List (Step σ)}
    {step : Step σ} (course : Course first steps step.party) :
    Course first (step :: steps) (step.next respond) := by
  generalize reached : step.party = client at course
  cases course with
  | waiting rejected =>
    subst reached
    by_cases empty : step.message = []
    · have opens : Opens step := ⟨ready, empty⟩
      have asked := requested_of_opens opens
      have reaction := reacts step
      rw [Dialogue.Step.next]
      generalize answer : step.result respond = result at reaction
      generalize (step.outcome respond).memory = memory at reaction ⊢
      generalize requested step = targets at reaction
      cases reaction with
      | refused closed => exact absurd opens closed
      | presented _ given =>
        have opened := Course.presented rejected rfl empty asked given answer (List.forall_mem_nil _)
        exact opened
      | denied _ withheld =>
        have opened := Course.denied rejected rfl empty asked withheld answer (List.forall_mem_nil _)
        exact opened
    · have refuses := refuses_of_closed fun opens : Opens step => empty opens.empty
      rw [ready] at refuses
      rw [refuses.next]
      exact .waiting (List.forall_mem_cons.mpr ⟨⟨refuses, empty⟩, rejected⟩)
  | presented rejected party empty asked given answer ended =>
    have refuses := refuses_of_spoken (by simp) reached
    rw [refuses.next]
    have closed := Course.presented rejected party empty asked given answer
      (List.forall_mem_cons.mpr ⟨refuses, ended⟩)
    exact closed
  | denied rejected party empty asked withheld answer ended =>
    have refuses := refuses_of_spoken (by simp) reached
    rw [refuses.next]
    have closed := Course.denied rejected party empty asked withheld answer
      (List.forall_mem_cons.mpr ⟨refuses, ended⟩)
    exact closed

/-- The course of a client that is ready at first, whatever happens between the steps. -/
theorem course_of_succession {first : BearerClient σ} (ready : first.stage = .ready) {steps : List (Step σ)}
    {client : BearerClient σ} (given : Succession respond first steps client) : Course first steps client := by
  induction given with
  | start => exact .waiting (List.forall_mem_nil _)
  | step step before course => exact course.after ready

def requests (steps : List (Step σ)) : List String :=
  steps.flatMap requested

def outputs (steps : List (Step σ)) : List Bytes :=
  steps.filterMap fun step => (step.result respond).toOption

/-- Steps in which a client refuses its challenges add neither requests nor outputs. -/
theorem silent_of_refuses {client : BearerClient σ} {cause : SaslError} {steps : List (Step σ)}
    (refused : ∀ step ∈ steps, Refuses client cause step) : requests steps = [] ∧ outputs steps = [] := by
  constructor
  · exact List.flatMap_eq_nil_iff.mpr fun step listed => (refused step listed).unasked
  · refine List.filterMap_eq_nil_iff.mpr fun step listed => ?_
    rw [(refused step listed).answer]
    rfl

theorem silent_of_rejects {client : BearerClient σ} {steps : List (Step σ)}
    (rejected : ∀ step ∈ steps, Rejects client step) : requests steps = [] ∧ outputs steps = [] :=
  silent_of_refuses fun step listed => (rejected step listed).toRefuses

/-- Among silent steps, only the opening one counts. -/
theorem tally_of_silent {later earlier : List (Step σ)} {opening : Step σ}
    (after : requests later = [] ∧ outputs later = []) (before : requests earlier = [] ∧ outputs earlier = []) :
    requests (later ++ opening :: earlier) = requested opening ∧
      outputs (later ++ opening :: earlier) = (opening.result respond).toOption.toList := by
  obtain ⟨unasked, silent⟩ := after
  obtain ⟨unasked', silent'⟩ := before
  constructor
  · rw [requests, List.flatMap_append, List.flatMap_cons, ← requests, ← requests, unasked, unasked',
      List.nil_append, List.append_nil]
  · rw [outputs, List.filterMap_append, ← outputs, silent, List.nil_append, List.filterMap_cons, ← outputs,
      silent']
    cases (opening.result respond).toOption <;> rfl

theorem outputs_ne_nil_iff {steps : List (Step σ)} :
    outputs steps ≠ [] ↔ ∃ step ∈ steps, ∃ output, step.result respond = .ok output := by
  have responded (step : Step σ) :
      (step.result respond).toOption ≠ none ↔ ∃ output, step.result respond = .ok output := by
    cases step.result respond <;> simp [Except.toOption]
  rw [outputs, Ne, List.filterMap_eq_nil_iff]
  simp only [not_forall, exists_prop]
  exact exists_congr fun step => and_congr_right fun _ => responded step

/-- How a client behaves that was ready at first and has been given so many challenges. -/
structure Conduct (first : BearerClient σ) (steps : List (Step σ)) (client : BearerClient σ) : Prop where
  course : Course first steps client
  /-- One ticket is requested at most, -/
  once : (requests steps).length ≤ 1
  /-- and one response is given at most. -/
  single : (outputs steps).length ≤ 1
  /-- The client is complete as soon as it has responded. -/
  complete : client.isComplete = true ↔ ∃ step ∈ steps, ∃ output, step.result respond = .ok output

/-- Whatever a client is told, and whatever its source of tickets does, it requests one ticket and gives one
response at most. -/
theorem conduct_of_succession {source : TicketSource σ} {target host : String} {authzid : Option String}
    {steps : List (Step σ)} {client : BearerClient σ}
    (given : Succession respond (.new source target host authzid) steps client) :
    Conduct (.new source target host authzid) steps client := by
  have course := course_of_succession rfl given
  cases id course with
  | waiting rejected =>
    obtain ⟨unasked, silent⟩ := silent_of_rejects rejected
    refine ⟨course, by simp [unasked], by simp [silent], ?_⟩
    rw [← outputs_ne_nil_iff, silent]
    exact ⟨nofun, fun spoken => absurd rfl spoken⟩
  | presented rejected party empty asked ticket answer ended =>
    obtain ⟨requests, outputs⟩ := tally_of_silent (silent_of_refuses ended) (silent_of_rejects rejected)
    rw [asked] at requests
    rw [answer] at outputs
    refine ⟨course, by simp [requests], by simp [outputs, Except.toOption], ?_⟩
    rw [← outputs_ne_nil_iff, outputs]
    exact ⟨fun _ => by simp [Except.toOption], fun _ => rfl⟩
  | denied rejected party empty asked withheld answer ended =>
    obtain ⟨requests, outputs⟩ := tally_of_silent (silent_of_refuses ended) (silent_of_rejects rejected)
    rw [asked] at requests
    rw [answer] at outputs
    refine ⟨course, by simp [requests], by simp [outputs, Except.toOption], ?_⟩
    rw [← outputs_ne_nil_iff, outputs]
    exact ⟨nofun, fun spoken => absurd rfl spoken⟩

end BearerClient

namespace Insistence

open Dialogue (Succession)
open BearerClient

def client (ticket : Option String) : BearerClient Unit :=
  .new (.fixed "alice" ticket) "api" "example.com" (some "bob,carol")

def challenged (message : Bytes) (client : BearerClient Unit) : BearerClient.Step Unit :=
  ⟨client, message, (), Whisper.environment []⟩

/-- What becomes of a client that is given one challenge with a byte in it, and two empty ones. -/
def second (client : BearerClient Unit) : BearerClient Unit :=
  (challenged [1] client).next respond

def third (client : BearerClient Unit) : BearerClient Unit :=
  (challenged [] (second client)).next respond

def last (client : BearerClient Unit) : BearerClient Unit :=
  (challenged [] (third client)).next respond

def steps (client : BearerClient Unit) : List (BearerClient.Step Unit) :=
  [challenged [] (third client), challenged [] (second client), challenged [1] client]

theorem succession (client : BearerClient Unit) : Succession respond client (steps client) (last client) :=
  .step (challenged [] (third client)) (.step (challenged [] (second client))
    (.step (challenged [1] client) .start))

/-- Clients that are given three challenges, of which only the first is not empty. One has a ticket, the
other has none. -/
theorem answered_once :
    (requests (steps (client (some "eyJhbGciOiJIUzI1NiJ9.e30."))) = ["api"] ∧
      outputs (steps (client (some "eyJhbGciOiJIUzI1NiJ9.e30."))) = [Utf8.ofString
        "n,a=bob=2Ccarol,\x01host=example.com\x01auth=Bearer eyJhbGciOiJIUzI1NiJ9.e30.\x01\x01"] ∧
      Conduct (client (some "eyJhbGciOiJIUzI1NiJ9.e30.")) (steps (client (some "eyJhbGciOiJIUzI1NiJ9.e30.")))
        (last (client (some "eyJhbGciOiJIUzI1NiJ9.e30.")))) ∧
    requests (steps (client none)) = ["api"] ∧ outputs (steps (client none)) = [] ∧
      Conduct (client none) (steps (client none)) (last (client none)) :=
  ⟨⟨by decide +kernel, by decide +kernel, conduct_of_succession (succession _)⟩, by decide +kernel,
    by decide +kernel, conduct_of_succession (succession _)⟩

end Insistence

end BearerIdentity
