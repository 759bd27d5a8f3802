set_option autoImplicit false

namespace BearerIdentity.Modular

/-- `base ^ exponent` modulo `modulus`, by repeated squaring. -/
def pow (modulus base exponent : Nat) : Nat :=
  if h : exponent = 0 then 1 % modulus
  else
    let rest := pow modulus (base * base % modulus) (exponent / 2)
    if exponent % 2 = 1 then base * rest % modulus else rest
termination_by exponent
decreasing_by omega

def inverse (prime value : Nat) : Nat :=
  pow prime value (prime - 2)

/-- The difference modulo `modulus` of two numbers below it. -/
def sub (modulus left right : Nat) : Nat :=
  (left + (modulus - right % modulus)) % modulus

end BearerIdentity.Modular
