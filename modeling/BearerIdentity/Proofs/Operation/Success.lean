import BearerIdentity.Operation

set_option autoImplicit false

namespace BearerIdentity

/-- An outcome whose result is known is made of that result and of what it left behind. -/
theorem Outcome.eq_of_result {ε σ α : Type} {outcome : Outcome ε σ α}
    {result : Except (Fault ε) α} (same : outcome.result = result) :
    outcome = ⟨result, outcome.memory, outcome.environment⟩ := by
  subst same
  rfl

@[simp] theorem mapError_ok {ε ε' α : Type} (f : ε → ε') (value : α) :
    (Except.ok value : Except ε α).mapError f = .ok value := rfl

@[simp] theorem mapError_error {ε ε' α : Type} (f : ε → ε') (cause : ε) :
    (Except.error cause : Except ε α).mapError f = .error (f cause) := rfl

theorem bind_eq_error {ε α β : Type} {first : Except ε α} {next : α → Except ε β} {cause : ε}
    (failed : (first >>= next) = .error cause) :
    first = .error cause ∨ ∃ value, first = .ok value ∧ next value = .error cause := by
  cases first with
  | error origin =>
    cases failed
    exact .inl rfl
  | ok value => exact .inr ⟨value, rfl, failed⟩

theorem error_of_map {ε α β : Type} {f : α → β} {result : Except ε α} {cause : ε}
    (failed : result.map f = .error cause) : result = .error cause := by
  cases result with
  | ok value => cases failed
  | error origin =>
    cases failed
    rfl

theorem exists_of_mapError {ε ε' α : Type} {f : ε → ε'} {result : Except ε α} {cause : ε'}
    (failed : result.mapError f = .error cause) : ∃ origin, result = .error origin ∧ f origin = cause := by
  cases result with
  | ok value => cases failed
  | error origin => exact ⟨origin, rfl, Except.error.inj failed⟩

theorem exists_ok_of_isOk {ε α : Type} {result : Except ε α} (succeeded : result.isOk = true) :
    ∃ value, result = .ok value := by
  cases result with
  | ok value => exact ⟨value, rfl⟩
  | error cause => cases succeeded

namespace Operation

variable {ε ε' σ τ α β : Type} {memory memory' : σ} {environment environment' : Environment}

@[simp] theorem succeed_eq_ok {value other : α} :
    (succeed value : Operation ε σ α) memory environment = ⟨.ok other, memory', environment'⟩ ↔
      value = other ∧ memory = memory' ∧ environment = environment' := by
  simp [succeed]

@[simp] theorem fail_eq_ok {cause : ε} {value : α} :
    (fail cause : Operation ε σ α) memory environment = ⟨.ok value, memory', environment'⟩ ↔
      False := by
  simp [fail]

@[simp] theorem bind_eq_ok {first : Operation ε σ α} {next : α → Operation ε σ β} {value : β} :
    (first >>= next) memory environment = ⟨.ok value, memory', environment'⟩ ↔
      ∃ middle memory₁ environment₁, first memory environment = ⟨.ok middle, memory₁, environment₁⟩ ∧
        next middle memory₁ environment₁ = ⟨.ok value, memory', environment'⟩ := by
  show andThen first next memory environment = _ ↔ _
  unfold andThen
  rcases first memory environment with ⟨fault | middle, memory₁, environment₁⟩
  · simp
  · constructor
    · intro rest
      exact ⟨middle, memory₁, environment₁, rfl, rest⟩
    · rintro ⟨_, _, _, same, rest⟩
      cases same
      exact rest

@[simp] theorem ofExcept_eq_ok {result : Except ε α} {value : α} :
    (ofExcept result : Operation ε σ α) memory environment = ⟨.ok value, memory', environment'⟩ ↔
      result = .ok value ∧ memory = memory' ∧ environment = environment' := by
  cases result <;> simp [ofExcept]

theorem ofExcept_apply (result : Except ε α) (memory : σ) (environment : Environment) :
    (ofExcept result : Operation ε σ α) memory environment =
      ⟨result.mapError .error, memory, environment⟩ := by
  cases result <;> rfl

theorem mapError_ofExcept (f : ε → ε') (result : Except ε α) :
    mapError f (ofExcept result : Operation ε σ α) = ofExcept (result.mapError f) := by
  cases result <;> rfl

/-- What is computed from a result touches neither memory nor environment. -/
theorem bind_ofExcept_apply (operation : Operation ε σ α) (f : α → Except ε β) (memory : σ)
    (environment : Environment) :
    (operation >>= fun value => ofExcept (f value)) memory environment =
      ⟨(operation memory environment).result >>= fun value => (f value).mapError .error,
        (operation memory environment).memory, (operation memory environment).environment⟩ := by
  show andThen operation _ memory environment = _
  unfold andThen
  rcases operation memory environment with ⟨fault | value, memory₁, environment₁⟩
  · rfl
  · exact ofExcept_apply (f value) memory₁ environment₁

@[simp] theorem ofOption_eq_ok {missing : ε} {found : Option α} {value : α} :
    (ofOption missing found : Operation ε σ α) memory environment =
        ⟨.ok value, memory', environment'⟩ ↔
      found = some value ∧ memory = memory' ∧ environment = environment' := by
  cases found <;> simp [ofOption]

@[simp] theorem ofDated_eq_ok {result : Except (Fault ε) α} {value : α} :
    (ofDated result : Operation ε σ α) memory environment = ⟨.ok value, memory', environment'⟩ ↔
      result = .ok value ∧ memory = memory' ∧ environment = environment' := by
  simp [ofDated]

@[simp] theorem mapError_eq_ok {f : ε → ε'} {operation : Operation ε σ α} {value : α} :
    mapError f operation memory environment = ⟨.ok value, memory', environment'⟩ ↔
      operation memory environment = ⟨.ok value, memory', environment'⟩ := by
  unfold mapError
  rcases operation memory environment with ⟨fault | found, memory₁, environment₁⟩
  · simp
  · simp

@[simp] theorem onPart_eq_ok {part : τ → σ} {restore : σ → τ → τ} {operation : Operation ε σ α}
    {whole whole' : τ} {value : α} :
    onPart part restore operation whole environment = ⟨.ok value, whole', environment'⟩ ↔
      ∃ rest, operation (part whole) environment = ⟨.ok value, rest, environment'⟩ ∧
        restore rest whole = whole' := by
  unfold onPart
  rcases operation (part whole) environment with ⟨result, rest, environment₁⟩
  simp only [Outcome.mk.injEq]
  constructor
  · rintro ⟨rfl, rfl, rfl⟩
    exact ⟨rest, ⟨rfl, rfl, rfl⟩, rfl⟩
  · rintro ⟨_, ⟨rfl, rfl, rfl⟩, rfl⟩
    exact ⟨rfl, rfl, rfl⟩

@[simp] theorem memory_eq_ok {value : σ} :
    (Operation.memory : Operation ε σ σ) memory environment = ⟨.ok value, memory', environment'⟩ ↔
      memory = value ∧ memory = memory' ∧ environment = environment' := by
  simp [Operation.memory]

@[simp] theorem now_eq_ok {instant : Instant} :
    (now : Operation ε σ Instant) memory environment = ⟨.ok instant, memory', environment'⟩ ↔
      environment.now = instant ∧ memory = memory' ∧ environment = environment' := by
  simp [now]

@[simp] theorem send_eq_ok {request : Request} {response : Response} :
    send request memory environment = ⟨.ok response, memory', environment'⟩ ↔
      environment.network environment.sent request = .ok response ∧ memory = memory' ∧
        (environment.exchange request).2 = environment' := by
  unfold send Environment.exchange
  cases environment.network environment.sent request <;> simp

@[simp] theorem attempt_eq_ok {operation : Operation ε σ α} {value : Except ε α} :
    (attempt operation : Operation ε' σ (Except ε α)) memory environment =
        ⟨.ok value, memory', environment'⟩ ↔
      operation memory environment = ⟨value.mapError .error, memory', environment'⟩ := by
  unfold attempt
  rcases operation memory environment with ⟨(_ | cause) | found, memory₁, environment₁⟩
  · cases value <;> simp
  · cases value <;> simp
  · cases value <;> simp

/-- A flow records an attempt first, and then how it went, unless an instant left the calendar. -/
theorem observe_apply (kind : FlowKind) (operation : Operation ε σ α) (memory : σ)
    (environment : Environment) :
    observe kind operation memory environment =
      match operation memory (environment.record kind .attempt) with
      | ⟨.ok value, memory, environment⟩ => ⟨.ok value, memory, environment.record kind .success⟩
      | ⟨.error (.error cause), memory, environment⟩ =>
        ⟨.error (.error cause), memory, environment.record kind .failure⟩
      | ⟨.error .calendar, memory, environment⟩ => ⟨.error .calendar, memory, environment⟩ := by
  simp only [observe, Bind.bind, andThen, record, attempt]
  rcases operation memory (environment.record kind .attempt) with
    ⟨(_ | cause) | found, memory₁, environment₁⟩ <;> rfl

/-- Apart from the flows that are recorded, an operation does the same when it is observed. -/
theorem exists_observe (kind : FlowKind) (operation : Operation ε σ α) (memory : σ)
    (environment : Environment) : ∃ flows, observe kind operation memory environment =
      { operation memory (environment.record kind .attempt) with
        environment :=
          { (operation memory (environment.record kind .attempt)).environment with flows } } := by
  rw [observe_apply]
  rcases operation memory (environment.record kind .attempt) with
    ⟨(_ | cause) | found, memory₁, environment₁⟩
  · exact ⟨_, rfl⟩
  · exact ⟨_, rfl⟩
  · exact ⟨_, rfl⟩

theorem result_observe (kind : FlowKind) (operation : Operation ε σ α) (memory : σ)
    (environment : Environment) :
    (observe kind operation memory environment).result =
      (operation memory (environment.record kind .attempt)).result := by
  obtain ⟨flows, observed⟩ := exists_observe kind operation memory environment
  rw [observed]

@[simp] theorem observe_eq_ok {kind : FlowKind} {operation : Operation ε σ α} {value : α} :
    observe kind operation memory environment = ⟨.ok value, memory', environment'⟩ ↔
      ∃ environment₁, operation memory (environment.record kind .attempt) =
          ⟨.ok value, memory', environment₁⟩ ∧
        environment₁.record kind .success = environment' := by
  rw [observe_apply]
  rcases operation memory (environment.record kind .attempt) with
    ⟨(_ | cause) | found, memory₁, environment₁⟩
  · simp
  · simp
  · simp only [Outcome.mk.injEq, Except.ok.injEq]
    constructor
    · rintro ⟨rfl, rfl, rfl⟩
      exact ⟨environment₁, ⟨rfl, rfl, rfl⟩, rfl⟩
    · rintro ⟨_, ⟨rfl, rfl, rfl⟩, rfl⟩
      exact ⟨rfl, rfl, rfl⟩

end Operation

end BearerIdentity
