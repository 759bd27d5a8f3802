import BearerIdentity.Proofs.Sasl.Framing

set_option autoImplicit false

namespace BearerIdentity.Session

open KeyExchange

variable {σ : Type} {own peer : Session}

/-- The frame of a text can be read if and only if the text is within the limit. -/
theorem exists_decode_sealed_iff (width : own.key.length = cipherKeyLength) {nonce : Bytes}
    (drawn : nonce.length = Frame.nonceLength) (plain : Bytes) :
    (∃ frame, Frame.decode (own.sealed nonce plain) = .ok frame) ↔
      plain.length ≤ Frame.payloadLimit := by
  have long := Gcm.length_encrypt width nonce plain
  have tagged : 1 ≤ Gcm.tagLength := by decide
  have whole := payloadLimit_add_tagLength
  rw [sealed, Frame.exists_decode_encode_iff drawn, long]
  omega

/-- How a session deals with a text, and its peer with the frame. -/
structure Carries (own peer : Session) (plain : Bytes) (memory : σ) (environment : Environment) :
    Prop where
  seals_iff : (∃ bytes, (own.encrypt plain memory environment).result = .ok bytes) ↔
    plain.length ≤ Frame.payloadLimit
  /-- What is sent is a frame, with the nonce that was drawn and a cipher text longer by the tag. -/
  framed : ∀ bytes, (own.encrypt plain memory environment).result = .ok bytes →
    ∃ cipherText, Frame.decode bytes = .ok ⟨(environment.draw Frame.nonceLength).1, cipherText⟩ ∧
      cipherText.length = plain.length + Gcm.tagLength
  opened : ∀ bytes, (own.encrypt plain memory environment).result = .ok bytes →
    peer.decrypt bytes = .ok plain
  /-- A longer text is refused, and then nothing is drawn. -/
  refused : Frame.payloadLimit < plain.length →
    own.encrypt plain memory environment =
      ⟨.error (.error (.frame .payloadTooLong)), memory, environment⟩
  /-- No longer text would make a frame that can be read. -/
  tight : ∀ nonce, nonce.length = Frame.nonceLength →
    ((∃ frame, Frame.decode (own.sealed nonce plain) = .ok frame) ↔
      plain.length ≤ Frame.payloadLimit)

/-- Two sessions with one key carry every text up to the limit, whatever nonce is drawn. -/
theorem carries_of_key (width : own.key.length = cipherKeyLength) (shared : peer.key = own.key)
    (plain : Bytes) (memory : σ) (environment : Environment) :
    Carries own peer plain memory environment := by
  have drawn := environment.length_draw Frame.nonceLength
  have one : peer = own := by
    cases own
    cases peer
    exact congrArg mk shared
  subst one
  have fits_of_ok : ∀ bytes, (peer.encrypt plain memory environment).result = .ok bytes →
      plain.length ≤ Frame.payloadLimit ∧
        bytes = peer.sealed (environment.draw Frame.nonceLength).1 plain := by
    intro bytes sent
    by_cases long : Frame.payloadLimit < plain.length
    · rw [encrypt_of_long long] at sent
      cases sent
    · have fits := Nat.not_lt.mp long
      rw [encrypt_apply fits] at sent
      exact ⟨fits, (Except.ok.inj sent).symm⟩
  refine ⟨⟨?_, fun fits => ?_⟩, fun bytes sent => ?_, fun bytes sent => ?_, fun long => ?_, ?_⟩
  · intro ⟨bytes, sent⟩
    exact (fits_of_ok bytes sent).1
  · rw [encrypt_apply fits]
    exact ⟨_, rfl⟩
  · obtain ⟨fits, rfl⟩ := fits_of_ok bytes sent
    exact ⟨_, decode_sealed width drawn fits, Gcm.length_encrypt width _ plain⟩
  · obtain ⟨fits, rfl⟩ := fits_of_ok bytes sent
    exact decrypt_sealed width drawn fits
  · exact encrypt_of_long long memory environment
  · intro nonce drawn
    exact exists_decode_sealed_iff width drawn plain

end BearerIdentity.Session

namespace BearerIdentity.Envelope

open Session

def session : Session :=
  ⟨List.replicate KeyExchange.cipherKeyLength 7⟩

def environment : Environment where
  now := .epoch
  network := fun _ _ => .error (.io "closed")
  sent := []
  entropy := [1, 2, 3]
  flows := []

def Arrives (count : Nat) : Prop :=
  ∃ bytes, (session.encrypt (List.replicate count 7) () environment).result = .ok bytes ∧
    session.decrypt bytes = .ok (List.replicate count 7)

/-- Two sessions with one key. The empty text and the longest one arrive, and one byte more is too much.
-/
theorem shortest_and_longest_arrive :
    session.key.length = KeyExchange.cipherKeyLength ∧ Arrives 0 ∧ Arrives Frame.payloadLimit ∧
      session.encrypt (List.replicate (Frame.payloadLimit + 1) 7) () environment =
        ⟨.error (.error (.frame .payloadTooLong)), (), environment⟩ := by
  have width : session.key.length = KeyExchange.cipherKeyLength := List.length_replicate
  have arrives : ∀ count, count ≤ Frame.payloadLimit → Arrives count := by
    intro count fits
    have carries := carries_of_key width rfl (List.replicate count 7) () environment
    obtain ⟨bytes, sent⟩ := carries.seals_iff.mpr (by rwa [List.length_replicate])
    exact ⟨bytes, sent, carries.opened bytes sent⟩
  have refused := (carries_of_key width rfl (List.replicate (Frame.payloadLimit + 1) 7) ()
    environment).refused (by rw [List.length_replicate]; exact Nat.lt_succ_self _)
  exact ⟨width, arrives 0 (Nat.zero_le _), arrives _ (Nat.le_refl _), refused⟩

end BearerIdentity.Envelope
