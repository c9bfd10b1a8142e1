import WebKeys.Bytes

/-!
# Hexadecimal text

Two digits a byte, the high half first. Writing uses small letters; reading takes either case and
nothing but digits.
-/

namespace WebKeys.Hex

def digit (n : Nat) : Char := if n < 10 then Char.ofNat (48 + n) else Char.ofNat (87 + n)

def digit? (c : Char) : Option Nat :=
  if '0' ≤ c ∧ c ≤ '9' then some (c.toNat - 48)
  else if 'a' ≤ c ∧ c ≤ 'f' then some (c.toNat - 87)
  else if 'A' ≤ c ∧ c ≤ 'F' then some (c.toNat - 55)
  else none

def encode : Bytes → List Char
  | [] => []
  | b :: rest => digit (b.toNat / 16) :: digit (b.toNat % 16) :: encode rest

/-- Refuses an odd number of digits and any other character. -/
def decode? : List Char → Option Bytes
  | [] => some []
  | [_] => none
  | high :: low :: rest =>
    match digit? high, digit? low, decode? rest with
    | some h, some l, some bs => some (UInt8.ofNat (16 * h + l) :: bs)
    | _, _, _ => none

/-- The digits of a number without leading zeros; zero is a single digit. -/
def natDigits (n : Nat) : List Char :=
  if n < 16 then [digit n] else natDigits (n / 16) ++ [digit (n % 16)]
termination_by n
decreasing_by omega

/-- The lowest `width` hexadecimal digits of a number. -/
def fixed : (width : Nat) → Nat → List Char
  | 0, _ => []
  | width + 1, n => fixed width (n / 16) ++ [digit (n % 16)]

/-- The number that hexadecimal digits spell, if all of them are digits. -/
def toNat? (cs : List Char) : Option Nat :=
  cs.foldl (fun n c => n.bind fun n => (digit? c).map fun d => 16 * n + d) (some 0)

end WebKeys.Hex
