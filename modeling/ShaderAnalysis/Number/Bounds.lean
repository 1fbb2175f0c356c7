/-!
# Numbers of bounded size

Clients and files give numbers that have to fit into a fixed number of bits.
-/

namespace ShaderAnalysis

/-- Whether a natural number has at most this many bits. -/
def fitsBits (bits n : Nat) : Bool :=
  n < Nat.pow 2 bits

/-- Whether a whole number has at most this many bits, one of which is for the sign. -/
def fitsSigned (bits : Nat) (n : Int) : Bool :=
  let half : Int := Nat.pow 2 (bits - 1)
  decide (-half ≤ n) && decide (n < half)

end ShaderAnalysis
