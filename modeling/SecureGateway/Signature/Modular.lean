namespace SecureGateway.Modular

def pow (m base exponent : Nat) : Nat :=
  if _h : exponent = 0 then 1 % m
  else
    let half := pow m (base * base % m) (exponent / 2)
    if exponent % 2 = 0 then half else half * base % m
termination_by exponent

/-- The inverse modulo a prime. -/
def inverse (p a : Nat) : Nat := pow p a (p - 2)

def sub (m a b : Nat) : Nat := (a + (m - b)) % m

end SecureGateway.Modular
