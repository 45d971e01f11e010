/-!
# Words

A word is a number of 64 bits.  Where a sum or a product of words would pass the
greatest word, saturating arithmetic stays there.
-/

namespace ResourceFaults

/-- How many numbers some bits can hold: two to the number of bits. -/
def span (bits : Nat) : Nat :=
  Nat.pow 2 bits

/-- The greatest word. -/
def maxWord : Nat := span 64 - 1

/-- A sum, at most the greatest word. -/
def saturatingAdd (a b : Nat) : Nat :=
  min (a + b) maxWord

/-- A product, at most the greatest word. -/
def saturatingMul (a b : Nat) : Nat :=
  min (a * b) maxWord

end ResourceFaults
