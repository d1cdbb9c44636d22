import Mathlib

/-- Rounding towards zero. -/
def trunc {α : Type} [Ring α] [LinearOrder α] [FloorRing α] (x : α) : ℤ := if 0 ≤ x then ⌊x⌋ else ⌈x⌉

section trunc

variable {α : Type} [Ring α] [LinearOrder α] [IsStrictOrderedRing α] [FloorRing α]

@[simp] theorem trunc_intCast (z : ℤ) : trunc (z : α) = z := by
  unfold trunc
  split <;> simp

end trunc
