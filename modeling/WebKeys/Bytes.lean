/-!
# Byte strings and the numbers they write

A byte string is a list of bytes, most significant first wherever it stands for a number.

* `Bytes.toNat` reads a number; leading zero bytes do not matter.
* `Bytes.ofNat width n` writes exactly `width` bytes; `Bytes.ofInt?` does so only for a number that
  fits, and `Bytes.minimal` uses the fewest bytes.
* `toNat_ofNat`: reading what was written gives the number back, up to the digits that did not fit.
-/

namespace WebKeys

/-- Bytes as a list, so that readers can take them from the front. -/
abbrev Bytes := List UInt8

/-- The number of binary digits of a number; zero has none. -/
def bitLength (n : Nat) : Nat := if n = 0 then 0 else Nat.log2 n + 1

namespace Bytes

attribute [local instance (2000)] instPowNat

/-- The number that bytes spell, the most significant one first. -/
def toNat (bs : Bytes) : Nat := bs.foldl (fun n b => 256 * n + b.toNat) 0

/-- The lowest `width` base-256 digits, most significant first. -/
def ofNat : (width : Nat) → Nat → Bytes
  | 0, _ => []
  | width + 1, n => ofNat width (n / 256) ++ [UInt8.ofNat (n % 256)]

/-- How many bytes a number needs; zero needs none. -/
def width (n : Nat) : Nat := (bitLength n + 7) / 8

/-- A number in exactly `width` bytes, if it is one that fits. -/
def ofInt? (width : Nat) (n : Int) : Option Bytes :=
  if 0 ≤ n ∧ n < 256 ^ width then some (ofNat width n.toNat) else none

/-- A number in the fewest bytes, but never in less than one. -/
def minimal? (n : Int) : Option Bytes := ofInt? (max 1 (width n.natAbs)) n

/-- Zero bytes in front, up to a width; bytes that are wider stay as they are. -/
def padLeft (width : Nat) (bs : Bytes) : Bytes := List.replicate (width - bs.length) 0 ++ bs

/-! ## Reading back -/

theorem toNat_concat (bs : Bytes) (b : UInt8) :
    toNat (bs ++ [b]) = 256 * toNat bs + b.toNat := by
  simp [toNat]

@[simp] theorem length_ofNat (w n : Nat) : (ofNat w n).length = w := by
  induction w generalizing n with
  | zero => rfl
  | succ w ih => simp [ofNat, ih]

/-- A number is read back from a width, up to what does not fit it. -/
theorem toNat_ofNat (w n : Nat) : toNat (ofNat w n) = n % 256 ^ w := by
  induction w generalizing n with
  | zero => simp [ofNat, toNat, Nat.mod_one]
  | succ w ih =>
    have hb : (UInt8.ofNat (n % 256)).toNat = n % 256 := by simp
    rw [ofNat, toNat_concat, ih, hb, Nat.pow_succ', Nat.mod_mul]
    omega

end Bytes

end WebKeys
