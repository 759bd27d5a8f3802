import BearerIdentity.Proofs.Crypto.Gcm
import BearerIdentity.Proofs.Crypto.Modular
import BearerIdentity.Proofs.Operation.Success
import BearerIdentity.Sasl.KeyExchange

set_option autoImplicit false

namespace BearerIdentity

namespace Frame

/-- A frame of the right proportions is read back from its bytes. -/
theorem decode_encode {nonce cipherText : Bytes} (width : nonce.length = nonceLength)
    (present : 0 < cipherText.length) (fits : cipherText.length ≤ partLimit) :
    decode (encode ⟨nonce, cipherText⟩) = .ok ⟨nonce, cipherText⟩ := by
  have head : (Bytes.ofNat headLength nonce.length).length = headLength := Bytes.length_ofNat _ _
  have layout : encode ⟨nonce, cipherText⟩ =
      Bytes.ofNat headLength nonce.length ++ (nonce ++ cipherText) := by
    rw [encode, List.append_assoc]
  have declared : Bytes.toNat (Bytes.ofNat headLength nonce.length) = nonceLength := by
    rw [width]
    exact Bytes.toNat_ofNat (by decide)
  have total : (nonce ++ cipherText).length = nonceLength + cipherText.length := by
    rw [List.length_append, width]
  have whole : ¬ (encode ⟨nonce, cipherText⟩).length < headLength := by
    rw [layout, List.length_append, head]
    omega
  have small : ¬ partLimit < nonceLength := by decide
  have filled : ¬ (nonce ++ cipherText).length ≤ nonceLength := by omega
  have bounded : ¬ partLimit < (nonce ++ cipherText).length - nonceLength := by omega
  rw [decode, if_neg whole, layout, List.take_left' head, List.drop_left' head, declared]
  rw [if_neg small, if_neg filled, if_neg bounded, if_neg (not_not_intro rfl)]
  rw [List.take_left' width, List.drop_left' width]

end Frame

namespace Session

open Operation

variable {σ : Type} {session : Session}

def sealed (session : Session) (nonce plain : Bytes) : Bytes :=
  Frame.encode ⟨nonce, Gcm.encrypt session.key nonce plain⟩

theorem encrypt_apply {plain : Bytes} (fits : plain.length ≤ Frame.payloadLimit) (memory : σ)
    (environment : Environment) :
    session.encrypt plain memory environment =
      ⟨.ok (session.sealed (environment.draw Frame.nonceLength).1 plain), memory,
        (environment.draw Frame.nonceLength).2⟩ := by
  rw [encrypt, if_neg (Nat.not_lt.mpr fits)]
  rfl

theorem encrypt_of_long {plain : Bytes} (long : Frame.payloadLimit < plain.length) (memory : σ)
    (environment : Environment) :
    session.encrypt plain memory environment =
      ⟨.error (.error (.frame .payloadTooLong)), memory, environment⟩ := by
  rw [encrypt, if_pos long]
  rfl

theorem sealed_ne_nil (session : Session) (nonce plain : Bytes) : session.sealed nonce plain ≠ [] := by
  intro empty
  have none := congrArg List.length empty
  simp [sealed, Frame.encode, Frame.headLength] at none

theorem payloadLimit_add_tagLength : Frame.payloadLimit + Gcm.tagLength = Frame.partLimit := by
  decide

section Sealed

variable {nonce plain : Bytes}

/-- The frame of a text within the limit holds the nonce and the cipher text. -/
theorem decode_sealed (width : session.key.length = KeyExchange.cipherKeyLength)
    (drawn : nonce.length = Frame.nonceLength) (fits : plain.length ≤ Frame.payloadLimit) :
    Frame.decode (session.sealed nonce plain) = .ok ⟨nonce, Gcm.encrypt session.key nonce plain⟩ := by
  have long := Gcm.length_encrypt width nonce plain
  have tagged : 1 ≤ Gcm.tagLength := by decide
  have whole := payloadLimit_add_tagLength
  apply Frame.decode_encode drawn
  · omega
  · omega

/-- Whoever has the key reads what was encrypted. -/
theorem decrypt_sealed (width : session.key.length = KeyExchange.cipherKeyLength)
    (drawn : nonce.length = Frame.nonceLength) (fits : plain.length ≤ Frame.payloadLimit) :
    session.decrypt (session.sealed nonce plain) = .ok plain := by
  rw [decrypt, decode_sealed width drawn fits]
  simp only [mapError_ok, Bind.bind, Except.bind, Gcm.decrypt?_encrypt width]

end Sealed

end Session

namespace KeyPair

open KeyExchange

theorem modulus_pos : 0 < modulus := by
  decide +kernel

theorem modulus_lt : modulus < 256 ^ keyLength := by
  decide +kernel

theorem toNat_publicKey (keys : KeyPair) :
    Bytes.toNat keys.publicKey = Modular.pow modulus generator keys.exponent :=
  Bytes.toNat_ofNat (Nat.lt_trans (Modular.pow_lt modulus_pos _ _) modulus_lt)

theorem length_publicKey (keys : KeyPair) : keys.publicKey.length = keyLength :=
  Bytes.length_ofNat _ _

/-- The strings that are agreed with: no longer than the modulus, and numbers with no obvious logarithm. -/
structure IsPublic (peer : Bytes) : Prop where
  present : 1 ≤ peer.length
  fits : peer.length ≤ keyLength
  aboveOne : 1 < Bytes.toNat peer
  belowLast : Bytes.toNat peer < modulus - 1

theorem agree_of_isPublic (own : KeyPair) {peer : Bytes} (proper : IsPublic peer) :
    own.agree peer = .ok ⟨(Bytes.ofNat keyLength
      (Modular.pow modulus (Bytes.toNat peer) own.exponent)).take cipherKeyLength⟩ := by
  have present : peer.isEmpty = false :=
    List.isEmpty_eq_false_iff.mpr (List.ne_nil_of_length_pos proper.present)
  have fits : ¬ keyLength < peer.length := Nat.not_lt.mpr proper.fits
  have inside : ¬ (Bytes.toNat peer ≤ 1 ∨ modulus - 1 ≤ Bytes.toNat peer) := by
    rw [not_or, Nat.not_le, Nat.not_le]
    exact ⟨proper.aboveOne, proper.belowLast⟩
  rw [agree]
  simp only [present, fits, decide_false, Bool.or_false, Bool.false_eq_true, ite_false, inside]

/-- A key pair whose public value has no obvious logarithm. -/
def IsSound (keys : KeyPair) : Prop :=
  1 < Bytes.toNat keys.publicKey ∧ Bytes.toNat keys.publicKey < modulus - 1

def session (own peer : KeyPair) : Session :=
  ⟨(Bytes.ofNat keyLength (Modular.pow modulus (Bytes.toNat peer.publicKey) own.exponent)).take
    cipherKeyLength⟩

theorem session_comm (own peer : KeyPair) : own.session peer = peer.session own := by
  simp only [session, toNat_publicKey, Modular.pow_pow_comm modulus generator peer.exponent]

theorem length_session_key (own peer : KeyPair) :
    (own.session peer).key.length = cipherKeyLength := by
  rw [session, List.length_take, Bytes.length_ofNat]
  decide

theorem agree_publicKey (own : KeyPair) {peer : KeyPair} (sound : peer.IsSound) :
    own.agree peer.publicKey = .ok (own.session peer) := by
  have long := peer.length_publicKey
  have positive : 1 ≤ keyLength := by decide
  exact own.agree_of_isPublic ⟨by omega, by omega, sound.1, sound.2⟩

end KeyPair

end BearerIdentity
