import WebKeys.Arithmetic.Modular

/-!
# Prime numbers

A number is taken for prime if no small prime divides it and it passes the strong test for every
base of a fixed list. `primeFrom?` walks the odd numbers upwards to the first that passes.
-/

namespace WebKeys.Arithmetic

def smallPrimes : List Nat :=
  [2, 3, 5, 7, 11, 13, 17, 19, 23, 29, 31, 37, 41, 43, 47, 53, 59, 61, 67, 71, 73, 79, 83, 89, 97,
   101, 103, 107, 109, 113, 127, 131, 137, 139, 149, 151, 157, 163, 167, 173, 179, 181, 191, 193,
   197, 199, 211, 223, 227, 229, 233, 239, 241, 251]

/-- The bases of the strong test. -/
def bases : List Nat := smallPrimes.take 20

/-- The odd part of a number and how often it had to be halved. -/
def oddPart (n : Nat) : Nat × Nat :=
  if _h : n ≠ 0 ∧ n % 2 = 0 then
    let (odd, halvings) := oddPart (n / 2)
    (odd, halvings + 1)
  else (n, 0)
termination_by n
decreasing_by omega

/-- Whether -1 is among a residue and its next `fuel` repeated squares. -/
def reachesMinusOne (n : Nat) : (fuel : Nat) → Nat → Bool
  | 0, _ => false
  | fuel + 1, x => x == n - 1 || reachesMinusOne n fuel (x * x % n)

/-- The strong test to a base: its power by the odd part is one, or squaring that meets minus
one. -/
def passesStrongTest (n base : Nat) : Bool :=
  let (odd, halvings) := oddPart (n - 1)
  let x := powMod n base odd
  x == 1 || reachesMinusOne n halvings x

/-- Small factors are tried first, and then the strong test to every base. -/
def isPrime (n : Nat) : Bool :=
  if n < 2 then false
  else if smallPrimes.contains n then true
  else smallPrimes.all (n % · ≠ 0) && bases.all (passesStrongTest n)

/-- The first prime among `n`, `n + 2`, … that `accept` agrees to, if one of the first `fuel` is. -/
def primeFrom? (accept : Nat → Bool) (fuel n : Nat) : Option Nat :=
  match fuel with
  | 0 => none
  | fuel + 1 => if isPrime n && accept n then some n else primeFrom? accept fuel (n + 2)

end WebKeys.Arithmetic
