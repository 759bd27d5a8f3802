import BearerIdentity.Proofs.Sasl.Session
import Mathlib.Data.Nat.PSub

set_option autoImplicit false

namespace BearerIdentity.Frame

variable {frame : Frame} {bytes : Bytes}

def mark : Bytes := [0x00, 0x00, 0x00, 0x10]

/-- The layout of a frame: the mark, a nonce, and a cipher text that is not empty and within the limit. -/
def IsLaidOut (bytes : Bytes) : Prop :=
  ∃ body, bytes = mark ++ body ∧ 17 ≤ body.length ∧ body.length ≤ 16 + partLimit

theorem encode_of_nonce (width : frame.nonce.length = nonceLength) :
    frame.encode = mark ++ (frame.nonce ++ frame.cipherText) := by
  have head : Bytes.ofNat headLength nonceLength = mark := by decide
  rw [encode, width, head, List.append_assoc]

/-- Four bytes that name the length of a nonce are the mark. -/
theorem eq_mark {head : Bytes} (width : head.length = headLength)
    (named : Bytes.toNat head = nonceLength) : head = mark := by
  apply Bytes.eq_of_toNat_eq
  · rw [width]
    decide
  · rw [named]
    decide

/-- What is read from a byte string has the right proportions, and is written as that byte string. -/
theorem encode_of_decode (decoded : decode bytes = .ok frame) :
    frame.nonce.length = nonceLength ∧ 1 ≤ frame.cipherText.length ∧
      frame.cipherText.length ≤ partLimit ∧ frame.encode = bytes := by
  rw [decode] at decoded
  by_cases short : bytes.length < headLength
  · rw [if_pos short] at decoded
    cases decoded
  rw [if_neg short] at decoded
  by_cases large : partLimit < Bytes.toNat (bytes.take headLength)
  · rw [if_pos large] at decoded
    cases decoded
  rw [if_neg large] at decoded
  by_cases empty : (bytes.drop headLength).length ≤ Bytes.toNat (bytes.take headLength)
  · rw [if_pos empty] at decoded
    cases decoded
  rw [if_neg empty] at decoded
  by_cases long :
      partLimit < (bytes.drop headLength).length - Bytes.toNat (bytes.take headLength)
  · rw [if_pos long] at decoded
    cases decoded
  rw [if_neg long] at decoded
  by_cases other : Bytes.toNat (bytes.take headLength) ≠ nonceLength
  · rw [if_pos other] at decoded
    cases decoded
  rw [if_neg other] at decoded
  have named : Bytes.toNat (bytes.take headLength) = nonceLength := not_not.mp other
  rw [named] at empty long decoded
  have parts := Except.ok.inj decoded
  subst parts
  have width : ((bytes.drop headLength).take nonceLength).length = nonceLength := by
    rw [List.length_take]
    omega
  have head : bytes.take headLength = mark := by
    apply eq_mark _ named
    rw [List.length_take]
    omega
  have rewritten : encode ⟨(bytes.drop headLength).take nonceLength,
      (bytes.drop headLength).drop nonceLength⟩ = bytes := by
    rw [encode_of_nonce width, List.take_append_drop, ← head, List.take_append_drop]
  refine ⟨width, ?_, ?_, rewritten⟩
  · rw [List.length_drop]
    omega
  · rw [List.length_drop]
    omega

/-- A frame is read back if and only if it has the right proportions. -/
theorem decode_encode_iff (nonce cipherText : Bytes) :
    decode (encode ⟨nonce, cipherText⟩) = .ok ⟨nonce, cipherText⟩ ↔
      nonce.length = nonceLength ∧ 1 ≤ cipherText.length ∧ cipherText.length ≤ partLimit := by
  constructor
  · intro decoded
    obtain ⟨width, present, fits, -⟩ := encode_of_decode decoded
    exact ⟨width, present, fits⟩
  · intro ⟨width, present, fits⟩
    exact decode_encode width present fits

theorem isLaidOut_of_decode (decoded : decode bytes = .ok frame) : IsLaidOut bytes := by
  obtain ⟨width, present, fits, rewritten⟩ := encode_of_decode decoded
  rw [nonceLength] at width
  refine ⟨frame.nonce ++ frame.cipherText, ?_, ?_, ?_⟩
  · rw [← rewritten, encode_of_nonce width]
  · rw [List.length_append]
    omega
  · rw [List.length_append]
    omega

theorem exists_decode (laidOut : IsLaidOut bytes) : ∃ frame, decode bytes = .ok frame := by
  obtain ⟨body, rfl, present, fits⟩ := laidOut
  have width : (body.take nonceLength).length = nonceLength := by
    rw [List.length_take, nonceLength]
    omega
  have rest : (body.drop nonceLength).length = body.length - 16 := List.length_drop
  have written : encode ⟨body.take nonceLength, body.drop nonceLength⟩ = mark ++ body := by
    rw [encode_of_nonce width, List.take_append_drop]
  have decoded := decode_encode width (show 0 < (body.drop nonceLength).length by omega)
    (show (body.drop nonceLength).length ≤ partLimit by omega)
  rw [written] at decoded
  exact ⟨_, decoded⟩

/-- Around a nonce of the right length, the cipher text alone decides whether the frame can be read. -/
theorem exists_decode_encode_iff {nonce : Bytes} (width : nonce.length = nonceLength)
    (cipherText : Bytes) :
    (∃ frame, decode (encode ⟨nonce, cipherText⟩) = .ok frame) ↔
      1 ≤ cipherText.length ∧ cipherText.length ≤ partLimit := by
  constructor
  · intro ⟨frame, decoded⟩
    obtain ⟨body, written, present, fits⟩ := isLaidOut_of_decode decoded
    rw [encode_of_nonce width] at written
    have same : nonce ++ cipherText = body := List.append_cancel_left written
    have lengths : 16 + cipherText.length = body.length := by
      rw [← same, List.length_append, width, nonceLength]
    omega
  · intro ⟨present, fits⟩
    exact ⟨_, decode_encode width present fits⟩

/-- A byte string in two parts, the first of which has that length. There are none where it is shorter. -/
def splitWithin? (bytes : Bytes) (place : Nat) : Option (Bytes × Bytes) :=
  if place ≤ bytes.length then some (bytes.take place, bytes.drop place) else none

/-- Reads a frame as `decode` does, but has no answer where a part would reach beyond the end of the byte
string, or where a difference would be negative. -/
def decodeWithin? (bytes : Bytes) : Option (Except FrameFlaw Frame) :=
  match splitWithin? bytes headLength with
  | none => some (.error .noLength)
  | some (head, rest) =>
    let length := Bytes.toNat head
    if partLimit < length then some (.error .nonceTooLong)
    else if rest.length ≤ length then some (.error .noCipherText)
    else
      (rest.length.psub length).bind fun remaining =>
        if partLimit < remaining then some (.error .cipherTextTooLong)
        else if length ≠ nonceLength then some (.error .nonceLength)
        else (splitWithin? rest length).map fun (nonce, cipherText) => .ok ⟨nonce, cipherText⟩

/-- The checks come before the parts and the difference that they guard. -/
theorem decodeWithin?_eq (bytes : Bytes) : decodeWithin? bytes = some (decode bytes) := by
  rw [decodeWithin?, decode]
  by_cases short : bytes.length < headLength
  · have outside : splitWithin? bytes headLength = none := if_neg (Nat.not_le.mpr short)
    simp only [outside, short, ite_true]
  have inside : splitWithin? bytes headLength = some (bytes.take headLength, bytes.drop headLength) :=
    if_pos (Nat.not_lt.mp short)
  simp only [inside, short, ite_false]
  by_cases large : partLimit < Bytes.toNat (bytes.take headLength)
  · simp only [large, ite_true]
  simp only [large, ite_false]
  by_cases empty : (bytes.drop headLength).length ≤ Bytes.toNat (bytes.take headLength)
  · simp only [empty, ite_true]
  have within := Nat.le_of_lt (Nat.not_le.mp empty)
  simp only [empty, ite_false, Nat.psub_eq_sub within, Option.bind_some, splitWithin?, within, ite_true,
    Option.map_some]
  split
  · rfl
  · split <;> rfl

/-- What the coding of frames guarantees for any byte string. -/
structure IsExact (bytes : Bytes) : Prop where
  reads_iff : (∃ frame, decode bytes = .ok frame) ↔ IsLaidOut bytes
  rewrites : ∀ frame, decode bytes = .ok frame → frame.encode = bytes
  /-- What is not read is refused for a flaw of a frame, and not for one of a text. -/
  refuses : ¬ IsLaidOut bytes → ∃ flaw, decode bytes = .error flaw ∧ flaw ≠ .payloadTooLong
  within : decodeWithin? bytes = some (decode bytes)

theorem decode_ne_payloadTooLong (bytes : Bytes) : decode bytes ≠ .error .payloadTooLong := by
  rw [decode]
  intro refused
  repeat' split at refused
  all_goals cases refused

/-- Reading inverts writing and writing inverts reading, as far as the proportions of a frame allow. -/
theorem coding_exact :
    (∀ nonce cipherText : Bytes,
      decode (encode ⟨nonce, cipherText⟩) = .ok ⟨nonce, cipherText⟩ ↔
        nonce.length = nonceLength ∧ 1 ≤ cipherText.length ∧ cipherText.length ≤ partLimit) ∧
      ∀ bytes : Bytes, IsExact bytes := by
  refine ⟨decode_encode_iff, fun bytes => ?_⟩
  have reads_iff : (∃ frame, decode bytes = .ok frame) ↔ IsLaidOut bytes := by
    constructor
    · intro ⟨frame, decoded⟩
      exact isLaidOut_of_decode decoded
    · exact exists_decode
  refine ⟨reads_iff, fun frame decoded => ?_, fun strange => ?_, decodeWithin?_eq bytes⟩
  · exact (encode_of_decode decoded).2.2.2
  · cases refused : decode bytes with
    | ok frame => exact absurd (isLaidOut_of_decode refused) strange
    | error flaw =>
      refine ⟨flaw, rfl, fun same => ?_⟩
      rw [same] at refused
      exact decode_ne_payloadTooLong bytes refused

end BearerIdentity.Frame
