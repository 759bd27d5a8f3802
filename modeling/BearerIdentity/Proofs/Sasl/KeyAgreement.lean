import BearerIdentity.Proofs.Bytes.Padding
import BearerIdentity.Proofs.Sasl.Session

set_option autoImplicit false

namespace BearerIdentity

namespace KeyExchange

/-- The shortest bytes of a number at the end of a field as long as the modulus. A longer number has no
place in it. -/
def padded? (value : Nat) : Option Bytes :=
  Bytes.fill? keyLength (Bytes.shortest value)

/-- A power is shorter than the modulus, so padding it never fails. -/
theorem padded?_pow (base exponent : Nat) :
    padded? (base ^ exponent % modulus) =
      some (Bytes.ofNat keyLength (Modular.pow modulus base exponent)) := by
  have below := Modular.pow_lt KeyPair.modulus_pos base exponent
  have room : Modular.pow modulus base exponent < 256 ^ keyLength :=
    Nat.lt_trans below KeyPair.modulus_lt
  rw [← Modular.pow_eq]
  exact Bytes.fill?_shortest (by decide) room

end KeyExchange

namespace KeyPair

open KeyExchange

variable {pair own peer : KeyPair} {text other : Bytes}

/-- Whether a string is agreed with is decided by its number, among strings that are not too long. -/
theorem IsPublic.of_toNat_eq (proper : IsPublic text) (fits : other.length ≤ keyLength)
    (same : Bytes.toNat other = Bytes.toNat text) : IsPublic other := by
  have above := proper.aboveOne
  have below := proper.belowLast
  have present : 1 ≤ other.length := by
    apply Nat.pos_of_ne_zero
    intro empty
    have small := Bytes.toNat_lt other
    rw [empty, Nat.pow_zero] at small
    omega
  exact ⟨present, fits, by omega, by omega⟩

theorem agree_of_not_isPublic (pair : KeyPair) (improper : ¬ IsPublic text) :
    pair.agree text = .error .invalidPublicKey := by
  rw [agree]
  by_cases outside : (text.isEmpty || decide (keyLength < text.length)) = true
  · simp only [outside, ite_true]
  by_cases obvious : Bytes.toNat text ≤ 1 ∨ modulus - 1 ≤ Bytes.toNat text
  · simp only [obvious, ite_true, ite_self]
  · rw [Bool.or_eq_true, not_or, decide_eq_true_eq, List.isEmpty_iff] at outside
    have present : 1 ≤ text.length := List.length_pos_iff.mpr outside.1
    have proper : IsPublic text := ⟨present, by omega, by omega, by omega⟩
    exact absurd proper improper

theorem exists_agree_iff (pair : KeyPair) (text : Bytes) :
    (∃ session, pair.agree text = .ok session) ↔ IsPublic text := by
  constructor
  · intro ⟨session, agreed⟩
    by_contra improper
    rw [agree_of_not_isPublic pair improper] at agreed
    cases agreed
  · intro proper
    exact ⟨_, agree_of_isPublic pair proper⟩

theorem length_key_of_agree {session : Session} (agreed : pair.agree text = .ok session) :
    session.key.length = cipherKeyLength := by
  have proper := (exists_agree_iff pair text).mp ⟨session, agreed⟩
  have short : cipherKeyLength ≤ keyLength := by decide
  rw [agree_of_isPublic pair proper] at agreed
  rw [← Except.ok.inj agreed, List.length_take, Bytes.length_ofNat]
  exact Nat.min_eq_left short

/-- Strings that denote the same number are agreed with alike, however many zeros precede it. -/
theorem agree_eq_of_toNat_eq (pair : KeyPair) (fits : text.length ≤ keyLength)
    (fits' : other.length ≤ keyLength) (same : Bytes.toNat other = Bytes.toNat text) :
    pair.agree other = pair.agree text := by
  by_cases proper : IsPublic text
  · rw [agree_of_isPublic pair proper, agree_of_isPublic pair (proper.of_toNat_eq fits' same), same]
  · have improper : ¬ IsPublic other := fun proper' => proper (proper'.of_toNat_eq fits same.symm)
    rw [agree_of_not_isPublic pair proper, agree_of_not_isPublic pair improper]

/-- An agreement with a public value is on the common session. -/
theorem eq_session_of_agree {session : Session} (agreed : own.agree peer.publicKey = .ok session) :
    session = own.session peer := by
  have proper := (exists_agree_iff own peer.publicKey).mp ⟨session, agreed⟩
  rw [agree_of_isPublic own proper] at agreed
  exact (Except.ok.inj agreed).symm

/-- Two parties that meet in one session, if they accept each other. -/
structure Meets (own peer : KeyPair) : Prop where
  length_own : own.publicKey.length = keyLength
  length_peer : peer.publicKey.length = keyLength
  one : ∀ session session', own.agree peer.publicKey = .ok session →
    peer.agree own.publicKey = .ok session' →
      session = session' ∧ session.key.length = cipherKeyLength

/-- What a party publishes, and what it makes of a string that it is given. -/
structure Responds (pair : KeyPair) (text : Bytes) : Prop where
  /-- The public value is a power of the generator, and padding it does not fail. -/
  publishes : padded? (generator ^ pair.exponent % modulus) = some pair.publicKey
  agrees_iff : (∃ session, pair.agree text = .ok session) ↔ IsPublic text
  refuses : ¬ IsPublic text → pair.agree text = .error .invalidPublicKey
  /-- The key is the beginning of a power of the string's number, and padding it does not fail. -/
  derives : IsPublic text → ∃ secret,
    padded? (Bytes.toNat text ^ pair.exponent % modulus) = some secret ∧
      pair.agree text = .ok ⟨secret.take cipherKeyLength⟩
  numeric : ∀ other : Bytes, text.length ≤ keyLength → other.length ≤ keyLength →
    Bytes.toNat other = Bytes.toNat text → pair.agree other = pair.agree text
  leading : ∀ count, count + text.length ≤ keyLength →
    pair.agree (List.replicate count 0 ++ text) = pair.agree text

/-- Parties that draw any two strings meet, and any party responds to any string in one way. -/
theorem agreement (first second : Bytes) :
    Meets (ofBytes first) (ofBytes second) ∧
      ∀ (pair : KeyPair) (text : Bytes), Responds pair text := by
  constructor
  · refine ⟨length_publicKey _, length_publicKey _, fun session session' agreed agreed' => ?_⟩
    have same : session = session' := by
      rw [eq_session_of_agree agreed, eq_session_of_agree agreed', session_comm]
    exact ⟨same, length_key_of_agree agreed⟩
  · intro pair text
    refine ⟨?_, exists_agree_iff pair text, agree_of_not_isPublic pair, fun proper => ?_, ?_, ?_⟩
    · rw [padded?_pow, publicKey]
    · exact ⟨_, padded?_pow _ _, agree_of_isPublic pair proper⟩
    · intro other fits fits' same
      exact agree_eq_of_toNat_eq pair fits fits' same
    · intro count fits
      have total : (List.replicate count 0 ++ text).length ≤ keyLength := by
        rw [List.length_append, List.length_replicate]
        exact fits
      exact agree_eq_of_toNat_eq pair (by omega) total (Bytes.toNat_zeros_append count text)

end KeyPair

namespace ShortSecret

open KeyExchange KeyPair

def first : Bytes :=
  List.replicate exponentLength 0

def second : Bytes :=
  List.replicate (exponentLength - 1) 0 ++ [67]

/-- Two parties that draw strings of full length, and whose common secret has a zero as its first byte.
-/
theorem meet_in_short_secret :
    first.length = exponentLength ∧ second.length = exponentLength ∧
      ∃ session, (ofBytes first).agree (ofBytes second).publicKey = .ok session ∧
        (ofBytes second).agree (ofBytes first).publicKey = .ok session ∧
        session.key.length = cipherKeyLength ∧ session.key.head? = some 0 := by
  have agrees : ((ofBytes first).agree (ofBytes second).publicKey).isOk = true := by decide +kernel
  have agrees' : ((ofBytes second).agree (ofBytes first).publicKey).isOk = true := by decide +kernel
  have leading : ((ofBytes first).agree (ofBytes second).publicKey).toOption.bind (·.key.head?) =
      some 0 := by decide +kernel
  obtain ⟨session, agreed⟩ := exists_ok_of_isOk agrees
  obtain ⟨session', agreed'⟩ := exists_ok_of_isOk agrees'
  obtain ⟨same, long⟩ := (agreement first second).1.one session session' agreed agreed'
  rw [agreed] at leading
  rw [← same] at agreed'
  exact ⟨by decide, by decide, session, agreed, agreed', long, leading⟩

end ShortSecret

end BearerIdentity
