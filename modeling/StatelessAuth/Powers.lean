/-
Powers of two and of ten, the scales on which numbers are written in
binary and in decimal.
-/

namespace StatelessAuth

def twoTo (power : Nat) : Nat := Nat.pow 2 power

def tenTo (power : Nat) : Nat := Nat.pow 10 power

end StatelessAuth
