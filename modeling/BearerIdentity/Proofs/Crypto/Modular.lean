import BearerIdentity.Crypto.Modular
import Mathlib.Algebra.Group.Nat.Defs

set_option autoImplicit false

namespace BearerIdentity.Modular

theorem pow_eq (modulus base exponent : Nat) :
    pow modulus base exponent = base ^ exponent % modulus := by
  induction exponent using Nat.strongRecOn generalizing base with
  | ind exponent ih =>
    rw [pow]
    split
    · rename_i zero
      rw [zero, Nat.pow_zero]
    · rename_i positive
      have halved : pow modulus (base * base % modulus) (exponent / 2) =
          base ^ (2 * (exponent / 2)) % modulus := by
        rw [ih (exponent / 2) (by omega), ← Nat.pow_mod, ← Nat.pow_two, ← Nat.pow_mul]
      dsimp only
      rw [halved]
      split
      · rename_i odd
        have whole : exponent = 2 * (exponent / 2) + 1 := by omega
        rw [Nat.mul_mod_mod, Nat.mul_comm, ← Nat.pow_add_one, ← whole]
      · rename_i even
        have whole : exponent = 2 * (exponent / 2) := by omega
        rw [← whole]

theorem pow_pow_comm (modulus base first second : Nat) :
    pow modulus (pow modulus base first) second = pow modulus (pow modulus base second) first := by
  simp only [pow_eq, ← Nat.pow_mod, ← Nat.pow_mul, Nat.mul_comm]

theorem pow_lt {modulus : Nat} (positive : 0 < modulus) (base exponent : Nat) :
    pow modulus base exponent < modulus := by
  rw [pow_eq]
  exact Nat.mod_lt _ positive

end BearerIdentity.Modular
