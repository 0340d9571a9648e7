/-! # Weights of places

The weights of binary and decimal places.
-/
namespace TenantGateway

def twoPow (n : Nat) : Nat := Nat.pow 2 n

def tenPow (n : Nat) : Nat := Nat.pow 10 n

end TenantGateway
