/-!
Powers of two and of ten, and the bounds of 64-bit words that are made of them.
-/

namespace DesktopAutomation.Number

/-- A power of two. -/
def twoTo (exponent : Nat) : Nat := Nat.pow 2 exponent

/-- A power of ten. -/
def tenTo (exponent : Nat) : Nat := Nat.pow 10 exponent

/-- The number of 64-bit words. -/
def wordCount : Nat := 0x10000000000000000

/-- The weight of the first bit of a 64-bit word. As many integers of this width are negative. -/
def firstBit : Nat := 0x8000000000000000

theorem twoTo_pos (exponent : Nat) : 0 < twoTo exponent := Nat.pow_pos (by decide)

theorem tenTo_pos (exponent : Nat) : 0 < tenTo exponent := Nat.pow_pos (by decide)

/-- The bounds are powers of two. -/
theorem twoTo_firstBit : twoTo 63 = firstBit := by decide +kernel

theorem twoTo_wordCount : twoTo 64 = wordCount := by decide +kernel

end DesktopAutomation.Number
