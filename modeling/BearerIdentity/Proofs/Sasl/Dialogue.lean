import BearerIdentity.Operation

set_option autoImplicit false

namespace BearerIdentity.Dialogue

variable {τ σ : Type}

abbrev Manner (τ σ : Type) : Type :=
  (message : Bytes) → Operation Error (τ × σ) Bytes

/-- A party that is given a message, with the memory and the environment that it finds then. -/
structure Step (τ σ : Type) where
  party : τ
  message : Bytes
  memory : σ
  environment : Environment

namespace Step

def outcome (manner : Manner τ σ) (step : Step τ σ) : Outcome Error (τ × σ) Bytes :=
  manner step.message (step.party, step.memory) step.environment

def result (manner : Manner τ σ) (step : Step τ σ) : Except (Fault Error) Bytes :=
  (step.outcome manner).result

def next (manner : Manner τ σ) (step : Step τ σ) : τ :=
  (step.outcome manner).memory.1

/-- Whether the step ends with an answer, be it an error. -/
def isAnswered (manner : Manner τ σ) (step : Step τ σ) : Bool :=
  match step.result manner with
  | .error .calendar => false
  | _ => true

theorem isAnswered_iff {manner : Manner τ σ} {step : Step τ σ} :
    step.isAnswered manner = true ↔ step.result manner ≠ .error .calendar := by
  unfold isAnswered
  split
  · rename_i ended
    simp [ended]
  · rename_i answered
    exact ⟨fun _ => answered, fun _ => rfl⟩

end Step

/-- The steps of a run so far, the latest first, and what has become of the party. An instant outside
the calendar ends the program, so a run goes on only after steps in which that did not happen. -/
inductive Run (manner : Manner τ σ) (first : τ) : List (Step τ σ) → τ → Prop where
  | start : Run manner first [] first
  | step {earlier : List (Step τ σ)} (step : Step τ σ) (run : Run manner first earlier step.party)
      (answered : step.isAnswered manner = true) :
      Run manner first (step :: earlier) (step.next manner)

namespace Run

variable {manner : Manner τ σ} {first last : τ} {steps : List (Step τ σ)}

/-- A run goes on with the next message. -/
theorem onward {party : τ} (run : Run manner first steps party) (message : Bytes) (memory : σ)
    (environment : Environment)
    (answered : Step.isAnswered manner ⟨party, message, memory, environment⟩ = true) :
    Run manner first (⟨party, message, memory, environment⟩ :: steps)
      (Step.next manner ⟨party, message, memory, environment⟩) :=
  .step ⟨party, message, memory, environment⟩ run answered

/-- What every step keeps of the party holds of it throughout a run. -/
theorem keeps (run : Run manner first steps last) (kept : τ → Prop) (begun : kept first)
    (next : ∀ step : Step τ σ, kept step.party → kept (step.next manner)) :
    kept last ∧ ∀ step ∈ steps, kept step.party := by
  induction run with
  | start => exact ⟨begun, fun step listed => absurd listed List.not_mem_nil⟩
  | step step run answered before =>
    refine ⟨next step before.1, fun other listed => ?_⟩
    rcases List.mem_cons.mp listed with rfl | listed
    · exact before.1
    · exact before.2 other listed

end Run

end BearerIdentity.Dialogue
