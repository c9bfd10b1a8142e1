import WebKeys.Bytes

/-!
# Text as bytes

The octet sequences of RFC 3629: one to four bytes a character, in the fewest bytes that hold it,
and no surrogate code points.
-/

namespace WebKeys.Utf8

def isTail (b : UInt8) : Bool := 0x80 ≤ b && b ≤ 0xBF

/-- The six bits that a continuation byte carries. -/
def low (b : UInt8) : Nat := b.toNat % 64

/-- The first character and what follows it. -/
def next? : Bytes → Option (Char × Bytes)
  | [] => none
  | a :: rest =>
    if a ≤ 0x7F then some (Char.ofNat a.toNat, rest)
    else if 0xC2 ≤ a ∧ a ≤ 0xDF then
      match rest with
      | b :: rest => if isTail b then some (Char.ofNat (a.toNat % 32 * 64 + low b), rest) else none
      | _ => none
    else if 0xE0 ≤ a ∧ a ≤ 0xEF then
      match rest with
      | b :: c :: rest =>
        let n := (a.toNat % 16 * 64 + low b) * 64 + low c
        if isTail b ∧ isTail c ∧ 0x800 ≤ n ∧ n.isValidChar then some (Char.ofNat n, rest) else none
      | _ => none
    else if 0xF0 ≤ a ∧ a ≤ 0xF4 then
      match rest with
      | b :: c :: d :: rest =>
        let n := ((a.toNat % 8 * 64 + low b) * 64 + low c) * 64 + low d
        if isTail b ∧ isTail c ∧ isTail d ∧ 0x10000 ≤ n ∧ n.isValidChar then
          some (Char.ofNat n, rest)
        else none
      | _ => none
    else none

/-- A character takes at least one byte. -/
theorem length_of_next? {bs rest : Bytes} {c : Char} (h : next? bs = some (c, rest)) :
    rest.length < bs.length := by
  unfold next? at h
  repeat' split at h
  all_goals simp_all
  all_goals omega

/-- The characters of a byte string, if all of it is well formed. -/
def decode? (bs : Bytes) : Option (List Char) :=
  match bs with
  | [] => some []
  | b :: tail =>
    match h : next? (b :: tail) with
    | none => none
    | some (c, rest) =>
      have := length_of_next? h
      (decode? rest).map (c :: ·)
termination_by bs.length
decreasing_by simp only [List.length_cons] at *; omega

def encodeChar (c : Char) : Bytes :=
  let n := c.toNat
  if n < 0x80 then [UInt8.ofNat n]
  else if n < 0x800 then [UInt8.ofNat (0xC0 + n / 64), UInt8.ofNat (0x80 + n % 64)]
  else if n < 0x10000 then
    [UInt8.ofNat (0xE0 + n / 4096), UInt8.ofNat (0x80 + n / 64 % 64), UInt8.ofNat (0x80 + n % 64)]
  else
    [UInt8.ofNat (0xF0 + n / 262144), UInt8.ofNat (0x80 + n / 4096 % 64),
      UInt8.ofNat (0x80 + n / 64 % 64), UInt8.ofNat (0x80 + n % 64)]

def encode (cs : List Char) : Bytes := cs.flatMap encodeChar

end WebKeys.Utf8
