import WebKeys.Text.Utf8
import WebKeys.Proofs.Bytes

/-!
# Text survives its encoding

Each character is read back from the front of whatever follows (`next?_encodeChar`), so a text that
was encoded is decoded as it was.
-/

namespace WebKeys.Utf8

theorem isTail_of_lt {n : Nat} (h : n < 64) : isTail (UInt8.ofNat (0x80 + n)) = true := by
  revert n
  decide

theorem low_of_lt {n : Nat} (h : n < 64) : low (UInt8.ofNat (0x80 + n)) = n := by
  revert n
  decide

/-! ## First bytes -/

/-- A byte above 0x7F does not stand for itself. -/
theorem not_le_of_toNat {b : UInt8} (h : 0x80 ≤ b.toNat) : ¬b ≤ 0x7F := by
  rw [UInt8.le_iff_toNat_le]
  have : (0x7F : UInt8).toNat = 0x7F := rfl
  omega

/-- A byte lies in a range of bytes if its number lies in that of their numbers. -/
theorem mem_range_iff {a b c : UInt8} : a ≤ b ∧ b ≤ c ↔ a.toNat ≤ b.toNat ∧ b.toNat ≤ c.toNat := by
  rw [UInt8.le_iff_toNat_le, UInt8.le_iff_toNat_le]

theorem next?_one {c : Char} (h : c.toNat < 0x80) (rest : Bytes) :
    next? (UInt8.ofNat c.toNat :: rest) = some (c, rest) := by
  have hb : (UInt8.ofNat c.toNat).toNat = c.toNat := Bytes.toNat_byte (by omega)
  have hle : UInt8.ofNat c.toNat ≤ 0x7F := by
    rw [UInt8.le_iff_toNat_le, hb]
    exact Nat.le_of_lt_succ h
  unfold next?
  dsimp only
  rw [if_pos hle, hb, Char.ofNat_toNat]

theorem next?_two {c : Char} (hlow : 0x80 ≤ c.toNat) (hhigh : c.toNat < 0x800) (rest : Bytes) :
    next? (UInt8.ofNat (0xC0 + c.toNat / 64) :: UInt8.ofNat (0x80 + c.toNat % 64) :: rest) =
      some (c, rest) := by
  have hmod : c.toNat % 64 < 64 := Nat.mod_lt _ (by decide)
  have hb : (UInt8.ofNat (0xC0 + c.toNat / 64)).toNat = 0xC0 + c.toNat / 64 :=
    Bytes.toNat_byte (by omega)
  have hrange : 0xC2 ≤ UInt8.ofNat (0xC0 + c.toNat / 64) ∧
      UInt8.ofNat (0xC0 + c.toNat / 64) ≤ 0xDF := by
    rw [mem_range_iff, hb]
    exact ⟨show 0xC2 ≤ _ by omega, show _ ≤ 0xDF by omega⟩
  have hnum : (0xC0 + c.toNat / 64) % 32 * 64 + c.toNat % 64 = c.toNat := by omega
  unfold next?
  dsimp only
  rw [if_neg (not_le_of_toNat (by omega)), if_pos hrange]
  rw [if_pos (isTail_of_lt hmod), hb, low_of_lt hmod, hnum, Char.ofNat_toNat]

theorem next?_three {c : Char} (hlow : 0x800 ≤ c.toNat) (hhigh : c.toNat < 0x10000)
    (rest : Bytes) :
    next? (UInt8.ofNat (0xE0 + c.toNat / 4096) :: UInt8.ofNat (0x80 + c.toNat / 64 % 64) ::
      UInt8.ofNat (0x80 + c.toNat % 64) :: rest) = some (c, rest) := by
  have hmod : c.toNat % 64 < 64 := Nat.mod_lt _ (by decide)
  have hmod' : c.toNat / 64 % 64 < 64 := Nat.mod_lt _ (by decide)
  have hb : (UInt8.ofNat (0xE0 + c.toNat / 4096)).toNat = 0xE0 + c.toNat / 4096 :=
    Bytes.toNat_byte (by omega)
  have htwo : ¬(0xC2 ≤ UInt8.ofNat (0xE0 + c.toNat / 4096) ∧
      UInt8.ofNat (0xE0 + c.toNat / 4096) ≤ 0xDF) := by
    rw [mem_range_iff, hb]
    exact fun h => absurd h.2 (show ¬_ ≤ 0xDF by omega)
  have hrange : 0xE0 ≤ UInt8.ofNat (0xE0 + c.toNat / 4096) ∧
      UInt8.ofNat (0xE0 + c.toNat / 4096) ≤ 0xEF := by
    rw [mem_range_iff, hb]
    exact ⟨show 0xE0 ≤ _ by omega, show _ ≤ 0xEF by omega⟩
  have hnum : ((0xE0 + c.toNat / 4096) % 16 * 64 + c.toNat / 64 % 64) * 64 + c.toNat % 64 =
      c.toNat := by omega
  unfold next?
  dsimp only
  rw [if_neg (not_le_of_toNat (by omega)), if_neg htwo, if_pos hrange]
  rw [low_of_lt hmod, low_of_lt hmod', hb, hnum,
    if_pos ⟨isTail_of_lt hmod', isTail_of_lt hmod, hlow, c.valid⟩, Char.ofNat_toNat]

theorem next?_four {c : Char} (hlow : 0x10000 ≤ c.toNat) (rest : Bytes) :
    next? (UInt8.ofNat (0xF0 + c.toNat / 262144) :: UInt8.ofNat (0x80 + c.toNat / 4096 % 64) ::
      UInt8.ofNat (0x80 + c.toNat / 64 % 64) :: UInt8.ofNat (0x80 + c.toNat % 64) :: rest) =
      some (c, rest) := by
  have hhigh : c.toNat < 0x110000 := by
    rcases c.valid with h | h
    · exact Nat.lt_trans h (by decide)
    · exact h.2
  have hmod : c.toNat % 64 < 64 := Nat.mod_lt _ (by decide)
  have hmod' : c.toNat / 64 % 64 < 64 := Nat.mod_lt _ (by decide)
  have hmod'' : c.toNat / 4096 % 64 < 64 := Nat.mod_lt _ (by decide)
  have hb : (UInt8.ofNat (0xF0 + c.toNat / 262144)).toNat = 0xF0 + c.toNat / 262144 :=
    Bytes.toNat_byte (by omega)
  have htwo : ¬(0xC2 ≤ UInt8.ofNat (0xF0 + c.toNat / 262144) ∧
      UInt8.ofNat (0xF0 + c.toNat / 262144) ≤ 0xDF) := by
    rw [mem_range_iff, hb]
    exact fun h => absurd h.2 (show ¬_ ≤ 0xDF by omega)
  have hthree : ¬(0xE0 ≤ UInt8.ofNat (0xF0 + c.toNat / 262144) ∧
      UInt8.ofNat (0xF0 + c.toNat / 262144) ≤ 0xEF) := by
    rw [mem_range_iff, hb]
    exact fun h => absurd h.2 (show ¬_ ≤ 0xEF by omega)
  have hrange : 0xF0 ≤ UInt8.ofNat (0xF0 + c.toNat / 262144) ∧
      UInt8.ofNat (0xF0 + c.toNat / 262144) ≤ 0xF4 := by
    rw [mem_range_iff, hb]
    exact ⟨show 0xF0 ≤ _ by omega, show _ ≤ 0xF4 by omega⟩
  have hnum : (((0xF0 + c.toNat / 262144) % 8 * 64 + c.toNat / 4096 % 64) * 64 +
      c.toNat / 64 % 64) * 64 + c.toNat % 64 = c.toNat := by omega
  unfold next?
  dsimp only
  rw [if_neg (not_le_of_toNat (by omega)), if_neg htwo, if_neg hthree, if_pos hrange]
  rw [low_of_lt hmod, low_of_lt hmod', low_of_lt hmod'', hb, hnum,
    if_pos ⟨isTail_of_lt hmod'', isTail_of_lt hmod', isTail_of_lt hmod, hlow, c.valid⟩,
    Char.ofNat_toNat]

/-! ## Texts -/

theorem next?_encodeChar (c : Char) (rest : Bytes) :
    next? (encodeChar c ++ rest) = some (c, rest) := by
  unfold encodeChar
  dsimp only
  split
  · next h => exact next?_one h rest
  · split
    · next hlow hhigh => exact next?_two (Nat.not_lt.mp hlow) hhigh rest
    · split
      · next hlow hhigh => exact next?_three (Nat.not_lt.mp hlow) hhigh rest
      · next hlow => exact next?_four (Nat.not_lt.mp hlow) rest

/-- Text is decoded character by character. -/
theorem decode?_of_next? {bs rest : Bytes} {c : Char} (h : next? bs = some (c, rest)) :
    decode? bs = (decode? rest).map (c :: ·) := by
  cases bs with
  | nil => cases h
  | cons b tail =>
    rw [decode?]
    split
    · next hnone => rw [hnone] at h; cases h
    · next c' rest' hsome =>
      rw [hsome] at h
      cases h
      rfl

theorem decode?_encode (cs : List Char) : decode? (encode cs) = some cs := by
  induction cs with
  | nil => rw [encode, List.flatMap_nil, decode?]
  | cons c cs ih =>
    rw [encode, List.flatMap_cons, decode?_of_next? (next?_encodeChar c _), ← encode, ih]
    rfl

end WebKeys.Utf8
