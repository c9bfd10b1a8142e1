/-!
# Arithmetic modulo a number

* `powMod_eq`: `powMod m b e` is `b ^ e` reduced by `m`, found by repeated squaring.
* `inverse?` finds the reciprocal of a number that has one, by Euclid's algorithm.
-/

namespace WebKeys.Arithmetic

attribute [local instance (2000)] instPowNat

def powMod (m b e : Nat) : Nat :=
  if h : e = 0 then 1 % m
  else
    let half := powMod m (b * b % m) (e / 2)
    if e % 2 = 1 then half * b % m else half
termination_by e
decreasing_by omega

/-- Squaring and multiplying gives the power. -/
theorem powMod_eq (m b e : Nat) : powMod m b e = b ^ e % m := by
  induction e using Nat.strongRecOn generalizing b with
  | ind e ih =>
    unfold powMod
    split
    · next h => simp [h]
    · next h =>
      have hsq : powMod m (b * b % m) (e / 2) = (b * b) ^ (e / 2) % m := by
        rw [ih (e / 2) (by omega), ← Nat.pow_mod]
      have hpow : (b * b) ^ (e / 2) = b ^ (2 * (e / 2)) := by
        rw [← Nat.pow_two, ← Nat.pow_mul]
      simp only [hsq, hpow]
      split
      · next ho =>
        have he : e = 2 * (e / 2) + 1 := by omega
        conv => rhs; rw [he, Nat.pow_succ]
        rw [Nat.mod_mul_mod]
      · next ho =>
        have he : e = 2 * (e / 2) := by omega
        conv => rhs; rw [he]

/-- Two remainders and how often the first number went into each, down to the common divisor. -/
def euclid (r next : Nat) (s t : Int) : Nat × Int :=
  if _h : next = 0 then (r, s)
  else euclid next (r % next) t (s - (r / next : Nat) * t)
termination_by next
decreasing_by exact Nat.mod_lt _ (by omega)

/-- The number below `m` whose product with `a` leaves the remainder 1. -/
def inverse? (a m : Nat) : Option Nat :=
  let (g, s) := euclid (a % m) m 1 0
  if g = 1 then some (s % m).toNat else none

/-- A difference that stays below the modulus, for a subtrahend below it. -/
def subMod (m a b : Nat) : Nat := (a + (m - b)) % m

/-- The quotient of two numbers; by a number without a reciprocal, zero. -/
def divMod (m a b : Nat) : Nat :=
  match inverse? b m with
  | some i => a * i % m
  | none => 0

end WebKeys.Arithmetic
