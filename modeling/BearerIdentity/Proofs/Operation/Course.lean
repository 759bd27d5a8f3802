import BearerIdentity.Proofs.Operation.Invariant

set_option autoImplicit false

namespace BearerIdentity

/-- The span of a call: the environments in which it began and ended. -/
structure Span where
  before : Environment
  after : Environment

/-- Time passes, and others send requests. -/
structure Environment.Passes (earlier later : Environment) : Prop
    extends earlier.Extends later where
  now : earlier.now ≤ later.now

namespace Operation

variable {ε μ α : Type}

def span (operation : Operation ε μ α) (memory : μ) (environment : Environment) : Span :=
  ⟨environment, (operation memory environment).environment⟩

/-- What becomes of a memory in the course of calls. The spans of the calls are listed, the latest
first. All operations are offered ones, and between the calls the environment passes on. -/
inductive Course (offered : {α : Type} → Operation ε μ α → Prop)
    (passes : Environment → Environment → Prop) (first : μ) :
    List Span → μ → Environment → Prop where
  | start (environment : Environment) : Course @offered passes first [] first environment
  | call {α : Type} {operation : Operation ε μ α} {spans : List Span} {memory : μ}
      {environment : Environment} (course : Course @offered passes first spans memory environment)
      (given : offered operation) :
      Course @offered passes first (operation.span memory environment :: spans)
        (operation memory environment).memory (operation memory environment).environment
  | pass {spans : List Span} {memory : μ} {earlier later : Environment}
      (course : Course @offered passes first spans memory earlier) (passed : passes earlier later) :
      Course @offered passes first spans memory later

/-- What holds at the start, and is kept by the offered operations and as time passes, holds of every
course. -/
theorem Course.keeps {offered : {α : Type} → Operation ε μ α → Prop}
    {passes : Environment → Environment → Prop} {first memory : μ} {spans : List Span}
    {environment : Environment} (course : Course @offered passes first spans memory environment)
    {kept : List Span → μ → Environment → Prop} (start : ∀ environment, kept [] first environment)
    (call : ∀ {α : Type} {operation : Operation ε μ α} {spans : List Span} {memory : μ}
      {environment : Environment}, offered operation → kept spans memory environment →
        kept (operation.span memory environment :: spans) (operation memory environment).memory
          (operation memory environment).environment)
    (pass : ∀ {spans : List Span} {memory : μ} {earlier later : Environment}, passes earlier later →
      kept spans memory earlier → kept spans memory later) :
    kept spans memory environment := by
  induction course with
  | start environment => exact start environment
  | call course given before => exact call given before
  | pass course passed before => exact pass passed before

end Operation

end BearerIdentity
