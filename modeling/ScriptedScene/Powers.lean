/-!
Powers of two, five and ten. They have names of their own so that a bound or a scale reads the same wherever it
stands.
-/

namespace ScriptedScene

def twoTo (n : Nat) : Nat := Nat.pow 2 n

def fiveTo (n : Nat) : Nat := Nat.pow 5 n

def tenTo (n : Nat) : Nat := Nat.pow 10 n

end ScriptedScene
