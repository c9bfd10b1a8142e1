import WebKeys.Bytes

/-!
# Base 64

Three bytes are four characters of six bits each. Two alphabets share all but their last two
characters: the standard one ends in `+` and `/`, the one for file names and links in `-` and `_`.

Reading is strict about characters and about padding. The characters come first and the padding
last; a last group of two characters takes exactly two padding characters, one of three exactly
one. A text that ends on a group boundary may carry any amount of padding, but padding alone is
refused. Unused bits of the last character are ignored.
-/

namespace WebKeys.Base64

/-- The two alphabets: they differ in the last two characters, and those of links need no escape
there. -/
inductive Alphabet
  | standard
  | link
  deriving DecidableEq

/-- Why a text is not base 64. -/
inductive Fault
  | notAscii
  | malformed
  deriving DecidableEq

/-- The character of a value below 64. -/
def Alphabet.char (a : Alphabet) (n : Nat) : Char :=
  if n < 26 then Char.ofNat (65 + n)
  else if n < 52 then Char.ofNat (71 + n)
  else if n < 62 then Char.ofNat (n - 4)
  else match a with
    | .standard => if n = 62 then '+' else '/'
    | .link => if n = 62 then '-' else '_'

/-- The six bits of a character; the alphabet for links reads the standard characters as well. -/
def Alphabet.value? (a : Alphabet) (c : Char) : Option Nat :=
  if 'A' ≤ c ∧ c ≤ 'Z' then some (c.toNat - 65)
  else if 'a' ≤ c ∧ c ≤ 'z' then some (c.toNat - 71)
  else if '0' ≤ c ∧ c ≤ '9' then some (c.toNat + 4)
  else if c = '+' then some 62
  else if c = '/' then some 63
  else if a = .link ∧ c = '-' then some 62
  else if a = .link ∧ c = '_' then some 63
  else none

/-! ## Writing -/

/-- The characters of a byte string, without padding. -/
def encode (a : Alphabet) : Bytes → List Char
  | [] => []
  | [x] => [a.char (x.toNat / 4), a.char (x.toNat % 4 * 16)]
  | [x, y] =>
    [a.char (x.toNat / 4), a.char (x.toNat % 4 * 16 + y.toNat / 16), a.char (y.toNat % 16 * 4)]
  | x :: y :: z :: rest =>
    a.char (x.toNat / 4) :: a.char (x.toNat % 4 * 16 + y.toNat / 16)
      :: a.char (y.toNat % 16 * 4 + z.toNat / 64) :: a.char (z.toNat % 64) :: encode a rest

/-- The padding characters that complete a text of `n` characters to whole groups of four. -/
def missing (n : Nat) : List Char := List.replicate ((4 - n % 4) % 4) '='

def encodePadded (a : Alphabet) (bs : Bytes) : List Char :=
  let cs := encode a bs
  cs ++ missing cs.length

/-! ## Reading -/

/-- The bytes of groups of six bits; a last group of two or three carries one or two bytes, and its
spare bits are dropped. A single leftover carries none and is refused. -/
def regroup : List Nat → Option Bytes
  | [] => some []
  | [_] => none
  | [p, q] => some [UInt8.ofNat (p * 4 + q / 16)]
  | [p, q, r] => some [UInt8.ofNat (p * 4 + q / 16), UInt8.ofNat (q % 16 * 16 + r / 4)]
  | p :: q :: r :: s :: rest =>
    (regroup rest).map fun bs =>
      UInt8.ofNat (p * 4 + q / 16) :: UInt8.ofNat (q % 16 * 16 + r / 4)
        :: UInt8.ofNat (r % 4 * 64 + s) :: bs

/-- Whether `pads` padding characters may end a text of `data` characters. -/
def paddingFits (data pads : Nat) : Bool :=
  match data % 4 with
  | 0 => pads = 0 ∨ data ≠ 0
  | 2 => pads = 2
  | 3 => pads = 1
  | _ => false

/-- Reads a text strictly: every character is in the alphabet, and the padding is the one that is
missing. -/
def decode (a : Alphabet) (text : List Char) : Except Fault Bytes :=
  if text.any (128 ≤ ·.toNat) then .error .notAscii
  else
    let data := text.takeWhile (· ≠ '=')
    let pads := text.dropWhile (· ≠ '=')
    if pads.all (· = '=') && paddingFits data.length pads.length then
      match (data.mapM a.value?).bind regroup with
      | some bs => .ok bs
      | none => .error .malformed
    else .error .malformed

/-- Reads a text whose padding may have been left out: the padding that completes its groups of
four is put back first. A single leftover character gets three, which no group takes. -/
def decodeUnpadded (a : Alphabet) (text : List Char) : Except Fault Bytes :=
  decode a (text ++ missing text.length)

end WebKeys.Base64
