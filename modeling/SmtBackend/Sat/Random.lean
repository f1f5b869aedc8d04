/-!
# The engine's random numbers

Random choices of the engine come from a linear congruential generator on
a 32-bit word: each step multiplies the state by 214013 and adds 2531011,
and a draw is bits 16 to 30 of the new state, a number below 2^15.
-/

namespace SmtBackend.Sat

/-- The generator state. -/
structure Lcg where
  state : UInt32
  deriving Repr, Inhabited

namespace Lcg

/-- The largest number a draw gives. -/
def maxDraw : Nat := 0x7fff

/-- The generator started from a seed. -/
def seeded (seed : Nat) : Lcg := ⟨seed.toUInt32⟩

/-- Draw a number and advance the state. -/
def next (g : Lcg) : Nat × Lcg :=
  let s := g.state * 214013 + 2531011
  (((s >>> 16) &&& 0x7fff).toNat, ⟨s⟩)

theorem next_le (g : Lcg) : g.next.1 ≤ maxDraw := by
  simp only [next, maxDraw, UInt32.toNat_and]
  exact Nat.and_le_right

end Lcg

end SmtBackend.Sat
