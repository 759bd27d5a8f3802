import BearerIdentity.Crypto.Gcm
import BearerIdentity.Proofs.Bytes

set_option autoImplicit false

namespace BearerIdentity

namespace Aes

theorem length_nextKey (constant : UInt8) {key : Bytes} (fits : key.length = 16) :
    (nextKey constant key).length = 16 := by
  simp [nextKey, fits]

theorem length_of_mem_roundKeys {count : Nat} {constant : UInt8} {key next : Bytes}
    (fits : key.length = 16) (listed : next ∈ roundKeys count constant key) : next.length = 16 := by
  induction count generalizing constant key with
  | zero => cases listed
  | succ count ih =>
    have first := length_nextKey constant fits
    rcases List.mem_cons.mp listed with rfl | listed
    · exact first
    · exact ih first listed

theorem length_last_ofKey {key : Bytes} (fits : key.length = 16) :
    (Schedule.ofKey key).last.length = 16 := by
  have nonempty : roundKeys 10 1 key ≠ [] := by simp [roundKeys]
  have listed := List.getLast_mem nonempty
  rw [Schedule.ofKey]
  dsimp only
  rw [List.getLastD_eq_getLast?, List.getLast?_eq_some_getLast nonempty]
  exact length_of_mem_roundKeys fits listed

theorem length_encryptBlock {schedule : Schedule} (fits : schedule.last.length = 16) (block : Bytes) :
    (encryptBlock schedule block).length = 16 := by
  simp [encryptBlock, shiftRows, fits]

end Aes

namespace Gcm

variable {schedule : Aes.Schedule}

theorem length_keyStream (fits : schedule.last.length = 16) (count counter : Nat) :
    (keyStream schedule count counter).length = 16 * count := by
  induction count generalizing counter with
  | zero => rfl
  | succ count ih =>
    simp only [keyStream, List.length_append, Aes.length_encryptBlock fits, ih]
    omega

theorem length_le_keyStream (fits : schedule.last.length = 16) (counter : Nat) (text : Bytes) :
    text.length ≤ (keyStream schedule (blocks text) counter).length := by
  rw [length_keyStream fits, blocks]
  omega

theorem length_mask (fits : schedule.last.length = 16) (counter : Nat) (text : Bytes) :
    (mask schedule counter text).length = text.length := by
  rw [mask, Bytes.length_xor]
  exact Nat.min_eq_left (length_le_keyStream fits counter text)

theorem mask_mask (fits : schedule.last.length = 16) (counter : Nat) (text : Bytes) :
    mask schedule counter (mask schedule counter text) = text := by
  have same : blocks (mask schedule counter text) = blocks text := by
    rw [blocks, length_mask fits, blocks]
  rw [mask, same, mask]
  exact Bytes.xor_xor (length_le_keyStream fits counter text)

theorem length_tag (fits : schedule.last.length = 16) (counter : Nat) (cipher : Bytes) :
    (tag schedule counter cipher).length = tagLength := by
  simp [tag, Aes.length_encryptBlock fits, tagLength]

variable {key : Bytes}

theorem length_encrypt (fits : key.length = 16) (nonce plain : Bytes) :
    (encrypt key nonce plain).length = plain.length + tagLength := by
  have last := Aes.length_last_ofKey fits
  simp only [encrypt, List.length_append, length_mask last, length_tag last]

/-- What was encrypted under a key and a nonce is decrypted under them. -/
theorem decrypt?_encrypt (fits : key.length = 16) (nonce plain : Bytes) :
    decrypt? key nonce (encrypt key nonce plain) = some plain := by
  have last := Aes.length_last_ofKey fits
  have long := length_encrypt fits nonce plain
  have before : (encrypt key nonce plain).length - tagLength = (mask (Aes.Schedule.ofKey key)
      (startCounter (Aes.Schedule.ofKey key) nonce) plain).length := by
    rw [long, length_mask last, Nat.add_sub_cancel]
  have enough : ¬ (encrypt key nonce plain).length < tagLength := by omega
  rw [decrypt?, if_neg enough, before]
  simp only [encrypt, List.take_left', List.drop_left', ite_true, mask_mask last]

end Gcm

end BearerIdentity
