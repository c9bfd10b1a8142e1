import WebKeys.Bytes
import WebKeys.Proofs.Outcome

/-!
# Numbers in bytes

* `ofNat_toNat`: a byte string is the only one of its length for its number.
* `width_toNat`: without a leading zero byte there are no more bytes than the number needs.
* `toNat_ofNat_toNat`, `toNat_padLeft`: fixed widths and padding keep the number.
-/

namespace WebKeys.Bytes

attribute [local instance (2000)] instPowNat

theorem toNat_byte {n : Nat} (h : n < 256) : (UInt8.ofNat n).toNat = n :=
  UInt8.toNat_ofNat_of_lt h

/-! ## Reading and writing are inverse -/

@[simp] theorem toNat_nil : toNat [] = 0 := rfl

theorem toNat_lt (bs : Bytes) : toNat bs < 256 ^ bs.length := by
  induction bs using List.reverseRecOn with
  | nil => decide
  | append_singleton bs b ih =>
    have hb := b.toNat_lt
    rw [toNat_concat, List.length_append, List.length_singleton, Nat.pow_succ]
    omega

theorem ofNat_toNat (bs : Bytes) : ofNat bs.length (toNat bs) = bs := by
  induction bs using List.reverseRecOn with
  | nil => rfl
  | append_singleton bs b ih =>
    have hb := b.toNat_lt
    have hdiv : (256 * toNat bs + b.toNat) / 256 = toNat bs := by omega
    have hmod : (256 * toNat bs + b.toNat) % 256 = b.toNat := by omega
    rw [toNat_concat, List.length_append, List.length_singleton, ofNat, hdiv, hmod, ih,
      UInt8.ofNat_toNat]

theorem toNat_ofNat_of_lt {w n : Nat} (h : n < 256 ^ w) : toNat (ofNat w n) = n := by
  rw [toNat_ofNat, Nat.mod_eq_of_lt h]

theorem toNat_cons (b : UInt8) (bs : Bytes) :
    toNat (b :: bs) = b.toNat * 256 ^ bs.length + toNat bs := by
  induction bs using List.reverseRecOn with
  | nil => simp [toNat]
  | append_singleton bs c ih =>
    rw [← List.cons_append, toNat_concat, toNat_concat, ih, List.length_append,
      List.length_singleton, Nat.pow_succ, Nat.mul_add, ← Nat.mul_assoc (b.toNat),
      Nat.mul_comm 256 (b.toNat * _)]
    omega

/-! ## Widths -/

theorem lt_pow_width (n : Nat) : n < 256 ^ width n := by
  have hbits : n < 2 ^ bitLength n := by
    unfold bitLength
    split
    · next h => simp [h]
    · exact Nat.lt_log2_self
  have hle : bitLength n ≤ 8 * width n := by
    unfold width
    omega
  calc n < 2 ^ bitLength n := hbits
    _ ≤ 2 ^ (8 * width n) := Nat.pow_le_pow_right (by decide) hle
    _ = 256 ^ width n := by rw [Nat.pow_mul]

/-- A number that reaches into a byte needs that byte. -/
theorem width_eq {n k : Nat} (hlow : 256 ^ k ≤ n) (hhigh : n < 256 ^ (k + 1)) :
    width n = k + 1 := by
  have hpos : n ≠ 0 := by
    have := Nat.pow_pos (n := k) (show 0 < 256 by decide)
    omega
  have hge : 8 * k ≤ n.log2 := by
    rw [Nat.le_log2 hpos, Nat.pow_mul]
    exact hlow
  have hlt : n.log2 < 8 * (k + 1) := by
    rw [Nat.log2_lt hpos, Nat.pow_mul]
    exact hhigh
  unfold width bitLength
  rw [if_neg hpos]
  omega

theorem width_le {n k : Nat} (h : n < 256 ^ k) : width n ≤ k := by
  unfold width bitLength
  split
  · omega
  · next hpos =>
    have hlt : n.log2 < 8 * k := by
      rw [Nat.log2_lt hpos, Nat.pow_mul]
      exact h
    omega

theorem width_toNat {b : UInt8} (bs : Bytes) (hb : b ≠ 0) :
    width (toNat (b :: bs)) = bs.length + 1 := by
  refine width_eq ?_ (toNat_lt (b :: bs))
  have hpos : 1 ≤ b.toNat := Nat.one_le_iff_ne_zero.mpr fun h => hb (UInt8.toNat_inj.mp h)
  have hmul := Nat.mul_le_mul_right (256 ^ bs.length) hpos
  rw [toNat_cons]
  omega

theorem toNat_pos {b : UInt8} (bs : Bytes) (hb : b ≠ 0) : 0 < toNat (b :: bs) := by
  refine Nat.pos_of_ne_zero fun hzero => ?_
  have hwidth := width_toNat bs hb
  rw [hzero] at hwidth
  cases hwidth

/-- The fewest bytes of a number do not start with zero. -/
theorem head_ofNat_width {n : Nat} {b : UInt8} {bs : Bytes} (h : ofNat (width n) n = b :: bs) :
    b ≠ 0 := by
  rintro rfl
  have hn : toNat (0 :: bs) = n := by rw [← h, toNat_ofNat_of_lt (lt_pow_width n)]
  have hlen : width n = bs.length + 1 := by
    rw [← length_ofNat (width n) n, h, List.length_cons]
  have hlt : n < 256 ^ bs.length := by
    rw [← hn, toNat_cons]
    simpa using toNat_lt bs
  have := width_le hlt
  omega

/-! ## Fixed widths -/

theorem ofInt?_eq_some {w : Nat} {n : Int} {bs : Bytes} :
    ofInt? w n = some bs ↔ (0 ≤ n ∧ n < 256 ^ w) ∧ bs = ofNat w n.toNat := by
  unfold ofInt?
  split <;> simp_all [eq_comm]

theorem toNat_ofNat_toNat {w : Nat} {n : Int} (h0 : 0 ≤ n) (h : n < 256 ^ w) :
    (toNat (ofNat w n.toNat) : Int) = n := by
  obtain ⟨m, rfl⟩ := Int.eq_ofNat_of_zero_le h0
  have hm : m < 256 ^ w := by exact_mod_cast h
  rw [Int.toNat_natCast, toNat_ofNat_of_lt hm]

theorem ofInt?_natCast {w n : Nat} (h : n < 256 ^ w) :
    ofInt? w (n : Int) = some (ofNat w n) := by
  have hcast : (n : Int) < 256 ^ w := by exact_mod_cast h
  exact ofInt?_eq_some.mpr ⟨⟨by omega, hcast⟩, by simp⟩

theorem minimal?_natCast (n : Nat) :
    minimal? (n : Int) = some (ofNat (max 1 (width n)) n) := by
  refine ofInt?_natCast (Nat.lt_of_lt_of_le (lt_pow_width n) ?_)
  exact Nat.pow_le_pow_right (by decide) (Nat.le_max_right 1 (width n))

theorem toNat_minimal (n : Nat) : toNat (ofNat (max 1 (width n)) n) = n := by
  refine toNat_ofNat_of_lt (Nat.lt_of_lt_of_le (lt_pow_width n) ?_)
  exact Nat.pow_le_pow_right (by decide) (Nat.le_max_right 1 (width n))

/-! ## Padding -/

theorem toNat_padLeft (w : Nat) (bs : Bytes) : toNat (padLeft w bs) = toNat bs := by
  unfold padLeft
  induction w - bs.length with
  | zero => rfl
  | succ k ih => rw [List.replicate_succ, List.cons_append, toNat_cons, ih]; simp

theorem length_padLeft {w : Nat} {bs : Bytes} (h : bs.length ≤ w) : (padLeft w bs).length = w := by
  rw [padLeft, List.length_append, List.length_replicate]
  omega

theorem padLeft_eq_self {w : Nat} {bs : Bytes} (h : bs.length = w) : padLeft w bs = bs := by
  simp [padLeft, h]

end WebKeys.Bytes
