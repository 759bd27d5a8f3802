import BearerIdentity.Proofs.Json.Record
import BearerIdentity.Proofs.Text.Decimal
import BearerIdentity.Proofs.Text.Split
import BearerIdentity.Sasl.Registry

set_option autoImplicit false

/- The names of mechanisms. A mechanism is known by its own name; but the size of the keys is read as a
number and not as a text, so that the sealed mechanism is also known by names in which that number is
written with a sign or with zeros. The registry, which compares names, does not know these. -/

namespace BearerIdentity

namespace Mechanism

variable {name : String} {bits : Nat} {text digits : List Char}

/-- The texts of a number: decimal digits, with zeros before them or not, and with a plus sign before these
or not. -/
inductive Denotes (number : Nat) : List Char → Prop where
  | bare (zeros : Nat) : Denotes number (List.replicate zeros '0' ++ Nat.toDigits 10 number)
  | signed (zeros : Nat) : Denotes number ('+' :: (List.replicate zeros '0' ++ Nat.toDigits 10 number))

/-- The number that digits stand for, if there are any and it has 32 bits. -/
theorem digits_eq_some_iff :
    (if digits.isEmpty || !digits.all Ascii.isDigit then none
      else if Ascii.decimal digits < Nat.pow 2 32 then some (Ascii.decimal digits) else none) = some bits ↔
      (∃ zeros, digits = List.replicate zeros '0' ++ Nat.toDigits 10 bits) ∧ bits < Nat.pow 2 32 := by
  constructor
  · intro read
    split at read
    · cases read
    · rename_i known
      simp only [Bool.or_eq_true, Bool.not_eq_true', not_or, List.isEmpty_iff, Bool.not_eq_false] at known
      split at read
      · rename_i fits
        cases read
        exact ⟨Ascii.exists_zeros known.1 known.2, fits⟩
      · cases read
  · rintro ⟨⟨zeros, rfl⟩, fits⟩
    have filled : (List.replicate zeros '0' ++ Nat.toDigits 10 bits).isEmpty = false := by
      simp [Nat.toDigits_ne_nil]
    have known : (List.replicate zeros '0' ++ Nat.toDigits 10 bits).all Ascii.isDigit = true := by
      have zero : Ascii.isDigit '0' = true := rfl
      simp [Ascii.all_isDigit_toDigits, zero]
    rw [filled, known, Ascii.decimal_zeros_append, Ascii.decimal_toDigits, if_pos fits]
    rfl

/-- Digits have no plus sign before them. -/
theorem signed_ne_bare {rest : List Char} {zeros : Nat} :
    '+' :: rest ≠ List.replicate zeros '0' ++ Nat.toDigits 10 bits := by
  intro same
  have member : '+' ∈ List.replicate zeros '0' ++ Nat.toDigits 10 bits := same ▸ List.mem_cons_self
  rcases List.mem_append.mp member with inZeros | inDigits
  · exact absurd (List.eq_of_mem_replicate inZeros) (by decide)
  · exact absurd (List.all_eq_true.mp (Ascii.all_isDigit_toDigits bits) '+' inDigits) (by decide)

theorem Denotes.decimal (denotes : Denotes bits text) : Ascii.decimal text = bits := by
  cases denotes with
  | bare zeros => rw [Ascii.decimal_zeros_append, Ascii.decimal_toDigits]
  | signed zeros =>
    -- The sign is worth as much as a zero.
    exact (Ascii.decimal_zeros_append zeros _).trans (Ascii.decimal_toDigits bits)

theorem number?_eq_some_iff : number? text = some bits ↔ Denotes bits text ∧ bits < Nat.pow 2 32 := by
  unfold number?
  split
  · rename_i rest
    refine digits_eq_some_iff.trans ⟨?_, ?_⟩
    · rintro ⟨⟨zeros, rfl⟩, fits⟩
      exact ⟨.signed zeros, fits⟩
    · rintro ⟨denotes, fits⟩
      generalize spelled : '+' :: rest = text at denotes
      cases denotes with
      | bare zeros => exact absurd spelled signed_ne_bare
      | signed zeros => exact ⟨⟨zeros, List.tail_eq_of_cons_eq spelled⟩, fits⟩
  · rename_i other
    refine digits_eq_some_iff.trans ⟨?_, ?_⟩
    · rintro ⟨⟨zeros, rfl⟩, fits⟩
      exact ⟨.bare zeros, fits⟩
    · rintro ⟨denotes, fits⟩
      cases denotes with
      | bare zeros => exact ⟨⟨zeros, rfl⟩, fits⟩
      | signed zeros => exact absurd rfl (other _)

def Asks (name : String) (bits : Nat) : Prop :=
  ∃ text, Denotes bits text ∧ name.toList = sealedStem.toList ++ text

/-- The name asks for keys of so many bits and does not spell their number as it is written. -/
def AsksOddly (name : String) (bits : Nat) : Prop :=
  ∃ text, Denotes bits text ∧ text ≠ Nat.toDigits 10 bits ∧ name.toList = sealedStem.toList ++ text

theorem toList_name_sealed : Mechanism.sealed.name.toList = sealedStem.toList ++ Nat.toDigits 10 keyBits := by
  decide +kernel

/-- A name that asks for the only size there is may be the mechanism's own. -/
theorem asks_keyBits_iff : Asks name keyBits ↔ name = Mechanism.sealed.name ∨ AsksOddly name keyBits := by
  constructor
  · rintro ⟨text, denotes, spelled⟩
    by_cases own : text = Nat.toDigits 10 keyBits
    · rw [own, ← toList_name_sealed] at spelled
      exact .inl (String.toList_injective spelled)
    · exact .inr ⟨text, denotes, own, spelled⟩
  · rintro (rfl | ⟨text, denotes, -, spelled⟩)
    · exact ⟨_, .bare 0, toList_name_sealed⟩
    · exact ⟨text, denotes, spelled⟩

/-- A name that is too short for the stem asks for nothing. -/
theorem not_asks_plainName : ¬ Asks plainName bits := by
  rintro ⟨text, -, spelled⟩
  have lengths := congrArg List.length spelled
  rw [List.length_append] at lengths
  have shorter : plainName.toList.length < sealedStem.toList.length := by decide
  omega

theorem size?_eq_some_iff :
    (Split.afterPrefix? sealedStem.toList name.toList).bind number? = some bits ↔
      Asks name bits ∧ bits < Nat.pow 2 32 := by
  rw [Option.bind_eq_some_iff]
  constructor
  · rintro ⟨text, cut, read⟩
    obtain ⟨denotes, fits⟩ := number?_eq_some_iff.mp read
    exact ⟨⟨text, denotes, (Split.afterPrefix?_eq_some_iff _ _ _).mp cut⟩, fits⟩
  · rintro ⟨⟨text, denotes, spelled⟩, fits⟩
    exact ⟨text, (Split.afterPrefix?_eq_some_iff _ _ _).mpr spelled, number?_eq_some_iff.mpr ⟨denotes, fits⟩⟩

/-- What a name is read as. -/
inductive Reads (name : String) : Except SaslError Mechanism → Prop where
  | plain (own : name = plainName) : Reads name (.ok .plain)
  | sealed (asks : Asks name keyBits) : Reads name (.ok .sealed)
  | unsupported {bits : Nat} (asks : Asks name bits) (fits : bits < Nat.pow 2 32) (other : bits ≠ keyBits) :
      Reads name (.error (.unsupportedKeySize bits))
  | unknown (other : name ≠ plainName) (none : ∀ bits, Asks name bits → Nat.pow 2 32 ≤ bits) :
      Reads name (.error (.unknownMechanism name))

theorem reads_ofName (name : String) : Reads name (ofName name) := by
  unfold ofName
  by_cases own : name = plainName
  · rw [if_pos own]
    exact .plain own
  rw [if_neg own]
  cases size : (Split.afterPrefix? sealedStem.toList name.toList).bind number? with
  | none =>
    refine .unknown own fun bits asks => Nat.le_of_not_lt fun fits => ?_
    rw [size?_eq_some_iff.mpr ⟨asks, fits⟩] at size
    cases size
  | some bits =>
    obtain ⟨asks, fits⟩ := size?_eq_some_iff.mp size
    dsimp only
    split
    · rename_i only
      exact .sealed (only ▸ asks)
    · rename_i other
      exact .unsupported asks fits other

/-- A name asks for one size at most. -/
theorem Asks.unique {other : Nat} (asks : Asks name bits) (also : Asks name other) : bits = other := by
  obtain ⟨text, denotes, spelled⟩ := asks
  obtain ⟨again, denotes', spelled'⟩ := also
  have same : text = again := List.append_cancel_left (spelled.symm.trans spelled')
  rw [← denotes.decimal, ← denotes'.decimal, same]

theorem Reads.unique {read other : Except SaslError Mechanism} (one : Reads name read)
    (two : Reads name other) : read = other := by
  have keys : keyBits < Nat.pow 2 32 := by decide
  cases one with
  | plain own =>
    subst own
    cases two with
    | plain => rfl
    | sealed asks => exact absurd asks not_asks_plainName
    | unsupported asks => exact absurd asks not_asks_plainName
    | unknown other => exact absurd rfl other
  | sealed asks =>
    cases two with
    | plain own => exact absurd (own ▸ asks) not_asks_plainName
    | sealed => rfl
    | unsupported also _ other => exact absurd (also.unique asks) other
    | unknown _ none => exact absurd keys (Nat.not_lt.mpr (none _ asks))
  | unsupported asks fits other =>
    cases two with
    | plain own => exact absurd (own ▸ asks) not_asks_plainName
    | sealed also => exact absurd (asks.unique also) other
    | unsupported also => rw [asks.unique also]
    | unknown _ none => exact absurd fits (Nat.not_lt.mpr (none _ asks))
  | unknown other none =>
    cases two with
    | plain own => exact absurd own other
    | sealed asks => exact absurd keys (Nat.not_lt.mpr (none _ asks))
    | unsupported asks fits => exact absurd fits (Nat.not_lt.mpr (none _ asks))
    | unknown => rfl

theorem ofName_eq_iff {read : Except SaslError Mechanism} : ofName name = read ↔ Reads name read := by
  constructor
  · rintro rfl
    exact reads_ofName name
  · exact (reads_ofName name).unique

/-- A mechanism is known by its own name, and one of them by some others. -/
theorem ofName_eq_ok_iff {mechanism : Mechanism} :
    ofName name = .ok mechanism ↔
      name = mechanism.name ∨ mechanism = .sealed ∧ AsksOddly name keyBits := by
  rw [ofName_eq_iff]
  cases mechanism with
  | plain =>
    constructor
    · intro reads
      cases reads with
      | plain own => exact .inl own
    · rintro (own | ⟨⟨⟩, -⟩)
      exact .plain own
  | sealed =>
    constructor
    · intro reads
      cases reads with
      | sealed asks => exact (asks_keyBits_iff.mp asks).imp_right fun oddly => ⟨rfl, oddly⟩
    · intro known
      exact .sealed (asks_keyBits_iff.mpr (known.imp_right And.right))

end Mechanism

namespace MechanismRegistry

variable {σ : Type} {name : String}

def underOwnNames {α : Type} (maker : Mechanism → α) : List (String × α) :=
  Json.insertSorted Mechanism.sealed.name (maker .sealed)
    (Json.insertSorted Mechanism.plain.name (maker .plain) [])

theorem clients_standard :
    (standard (σ := σ)).clients = underOwnNames fun mechanism context => context.client mechanism := rfl

theorem servers_standard :
    (standard (σ := σ)).servers = underOwnNames fun mechanism verifier => verifier.server mechanism := rfl

section Makers

variable {α : Type} (maker : Mechanism → α)

theorem lookup_underOwnNames (name : String) :
    (underOwnNames maker).lookup name =
      if name = Mechanism.sealed.name then some (maker .sealed)
      else if name = Mechanism.plain.name then some (maker .plain) else none := by
  rw [underOwnNames, Json.lookup_insertSorted, Json.lookup_insertSorted, List.lookup_nil]

theorem lookup_own (mechanism : Mechanism) :
    (underOwnNames maker).lookup mechanism.name = some (maker mechanism) := by
  have apart : Mechanism.plain.name ≠ Mechanism.sealed.name := by decide +kernel
  rw [lookup_underOwnNames]
  cases mechanism with
  | plain => rw [if_neg apart, if_pos rfl]
  | sealed => rw [if_pos rfl]

theorem lookup_other (other : ∀ mechanism : Mechanism, name ≠ mechanism.name) :
    (underOwnNames maker).lookup name = none := by
  rw [lookup_underOwnNames, if_neg (other .sealed), if_neg (other .plain)]

end Makers

/-- The registry of all mechanisms makes something under their own names. -/
theorem made_of_own (mechanism : Mechanism) (context : ClientContext σ) (verifier : TokenVerifier σ) :
    standard.client mechanism.name context = .ok (context.client mechanism) ∧
      standard.server mechanism.name verifier = .ok (verifier.server mechanism) := by
  constructor
  · rw [client, clients_standard, lookup_own]
  · rw [server, servers_standard, lookup_own]

theorem refused_of_other (other : ∀ mechanism : Mechanism, name ≠ mechanism.name)
    (context : ClientContext σ) (verifier : TokenVerifier σ) :
    standard.client name context = .error (unavailable name) ∧
      standard.server name verifier = .error (unavailable name) := by
  constructor
  · rw [client, clients_standard, lookup_other _ other]
  · rw [server, servers_standard, lookup_other _ other]

/-- For a name that can be read the registry has no better cause than that it does not know the name. -/
theorem unavailable_eq_iff {cause : SaslError} :
    unavailable name = cause ↔
      Mechanism.Reads name (.error cause) ∨
        cause = .unknownMechanism name ∧ ∃ mechanism, Mechanism.Reads name (.ok mechanism) := by
  have reading := Mechanism.reads_ofName name
  unfold unavailable
  cases known : Mechanism.ofName name with
  | error other =>
    rw [known] at reading
    constructor
    · rintro rfl
      exact .inl reading
    · rintro (also | ⟨-, mechanism, also⟩)
      · exact Except.error.inj (reading.unique also)
      · cases reading.unique also
  | ok mechanism =>
    rw [known] at reading
    constructor
    · rintro rfl
      exact .inr ⟨rfl, mechanism, reading⟩
    · rintro (also | ⟨rfl, -⟩)
      · cases reading.unique also
      · rfl

end MechanismRegistry

namespace Mechanism

open MechanismRegistry (standard unavailable)

/-- How a name is read, and what the registry of all mechanisms makes of it. -/
structure Reading (name : String) : Prop where
  read : ∀ result, ofName name = result ↔ Reads name result
  /-- A mechanism has its own name, and the sealed one also those that spell the number in another way. -/
  known : ∀ mechanism, ofName name = .ok mechanism ↔
    name = mechanism.name ∨ mechanism = .sealed ∧ AsksOddly name keyBits
  /-- The registry knows the own names, -/
  made : ∀ mechanism : Mechanism, name = mechanism.name →
    ∀ (σ : Type) (context : ClientContext σ) (verifier : TokenVerifier σ),
      standard.client name context = .ok (context.client mechanism) ∧
        standard.server name verifier = .ok (verifier.server mechanism)
  /-- and no others. -/
  refused : (∀ mechanism : Mechanism, name ≠ mechanism.name) →
    ∀ (σ : Type) (context : ClientContext σ) (verifier : TokenVerifier σ),
      standard.client name context = .error (unavailable name) ∧
        standard.server name verifier = .error (unavailable name)
  unavailable : ∀ cause, unavailable name = cause ↔
    Reads name (.error cause) ∨ cause = .unknownMechanism name ∧ ∃ mechanism, Reads name (.ok mechanism)

/-- Own names are accepted, and no others but those that write the number of the bits with a sign or with
zeros in front; these do not get past the registry. -/
theorem reading_of_name (name : String) : Reading name where
  read _ := ofName_eq_iff
  known _ := ofName_eq_ok_iff
  made mechanism own σ context verifier := by
    subst own
    exact MechanismRegistry.made_of_own mechanism context verifier
  refused other _ context verifier := MechanismRegistry.refused_of_other other context verifier
  unavailable _ := MechanismRegistry.unavailable_eq_iff

def signedName : String := "OAUTHBEARER-DH+4096"

theorem signedName_asksOddly : AsksOddly signedName keyBits :=
  ⟨'+' :: Nat.toDigits 10 keyBits, .signed 0, by simp, by decide +kernel⟩

theorem not_always_own :
    ¬ ∀ (name : String) (mechanism : Mechanism), ofName name = .ok mechanism → mechanism.name = name := by
  intro always
  have accepted : ofName signedName = .ok .sealed := ofName_eq_ok_iff.mpr (.inr ⟨rfl, signedName_asksOddly⟩)
  have other : Mechanism.sealed.name ≠ signedName := by decide +kernel
  exact other (always signedName .sealed accepted)

end Mechanism

end BearerIdentity
