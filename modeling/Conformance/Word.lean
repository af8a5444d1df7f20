/-!
# Words

Counts and times are kept in words of 64 bits. An unsigned word is a number below `size`. A signed
word is the number nearest zero that differs by a multiple of `size`.
-/

namespace Conformance.Word

/-- The number of words. -/
def size : Nat := Nat.pow 2 64

/-- Half the number of words, which is where the signed ones end. -/
def half : Nat := Nat.pow 2 63

/-- The number as an unsigned word. -/
def unsigned (n : Int) : Nat := (n % size).toNat

/-- The number as a signed word. -/
def signed (n : Int) : Int := n.bmod size

/-- The number is a signed word. -/
def isSigned (n : Int) : Bool := -(half : Int) ≤ n && n < half

end Conformance.Word
