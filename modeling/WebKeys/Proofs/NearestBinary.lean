import WebKeys.Json.Decimal
import WebKeys.Proofs.Numeral

/-!
# Decimals and the nearest 64-bit number

* `Binary.Normal`: the form of the numbers that a 64-bit word holds, with no mantissa shorter than
  it has to be.
* `Binary.ReadsAs`: all fractions between the midpoints to the numbers next to it are read as a
  number, and the midpoints too if its mantissa is even (`Binary.ofFraction_of_readsAs`).
* `Binary.readsAs_shortest`: with 17 digits a decimal comes that near to every number, so the
  shortest digits of a number are read as it.
-/

namespace WebKeys.Binary

/-! ## Whole numbers -/

/-- A whole number is the nearest to a fraction, and an odd one nearer than any other. -/
structure Rounds (q : ℚ) (m : ℕ) : Prop where
  lower : (m : ℚ) - 1 / 2 ≤ q
  upper : q ≤ m + 1 / 2
  strict : m % 2 = 1 → (m : ℚ) - 1 / 2 < q ∧ q < m + 1 / 2

theorem Rounds.le_of_le {q : ℚ} {m m' : ℕ} (h : Rounds q m) (h' : Rounds q m') : m' ≤ m := by
  by_contra hlt
  have hstep : m + 1 ≤ m' := by omega
  have hstep' : (m : ℚ) + 1 ≤ m' := by exact_mod_cast hstep
  have hnext : (m' : ℚ) ≤ m + 1 := by linarith [h.upper, h'.lower]
  have hm' : m' = m + 1 := le_antisymm (by exact_mod_cast hnext) hstep
  rcases Nat.mod_two_eq_zero_or_one m with heven | hodd
  · have hodd' : m' % 2 = 1 := by omega
    linarith [(h'.strict hodd').1, h.upper]
  · linarith [(h.strict hodd).2, h'.lower]

theorem Rounds.unique {q : ℚ} {m m' : ℕ} (h : Rounds q m) (h' : Rounds q m') : m = m' :=
  le_antisymm (h'.le_of_le h) (h.le_of_le h')

/-- Rounding half to even rounds to a nearest whole number, and to an even one at a tie. -/
theorem rounds_roundHalfEven (num : ℕ) {den : ℕ} (hden : 0 < den) :
    Rounds (num / den) (roundHalfEven num den) := by
  have hden' : (0 : ℚ) < den := by exact_mod_cast hden
  obtain ⟨f, hf⟩ : ∃ f, f = ((num % den : ℕ) : ℚ) / den := ⟨_, rfl⟩
  have hf0 : 0 ≤ f := hf ▸ by positivity
  have hf1 : f < 1 := by
    rw [hf, div_lt_one hden']
    exact_mod_cast Nat.mod_lt num hden
  have hnum : (num : ℚ) / den = (num / den : ℕ) + f := by
    rw [hf]
    field_simp
    exact_mod_cast (Nat.div_add_mod num den).symm
  have hlt : den < 2 * (num % den) ↔ 1 / 2 < f := by
    rw [hf, lt_div_iff₀ hden', ← @Nat.cast_lt ℚ]
    push_cast
    constructor <;> intro h <;> linarith
  have htie : 2 * (num % den) = den ↔ f = 1 / 2 := by
    rw [hf, div_eq_iff hden'.ne', ← @Nat.cast_inj ℚ]
    push_cast
    constructor <;> intro h <;> linarith
  unfold roundHalfEven
  dsimp only
  rw [hnum]
  split
  · next hup =>
    rw [hlt, htie] at hup
    have hhalf : 1 / 2 ≤ f := hup.elim le_of_lt fun h => h.1.ge
    refine ⟨by push_cast; linarith, by push_cast; linarith, fun hodd => ?_⟩
    have hhalf' : 1 / 2 < f := hup.resolve_right fun h => by omega
    exact ⟨by push_cast; linarith, by push_cast; linarith⟩
  · next hdown =>
    rw [hlt, htie, not_or, not_lt] at hdown
    refine ⟨by linarith, by linarith [hdown.1], fun hodd => ⟨by linarith, ?_⟩⟩
    have hhalf : f < 1 / 2 := lt_of_le_of_ne hdown.1 fun h => hdown.2 ⟨h, hodd⟩
    linarith

/-! ## Powers -/

/-- A power with a sign is a fraction of powers without. -/
theorem powerOf_eq {base : ℕ} (hbase : 0 < base) (e : ℤ) :
    ((powerOf base e).1 : ℚ) / (powerOf base e).2 = (base : ℚ) ^ e ∧ 0 < (powerOf base e).1 ∧
      0 < (powerOf base e).2 := by
  have hbase' : (base : ℚ) ≠ 0 := by exact_mod_cast hbase.ne'
  refine ⟨?_, Nat.pow_pos hbase, Nat.pow_pos hbase⟩
  have he : e = (e.toNat : ℤ) - ((-e).toNat : ℤ) := by omega
  simp only [powerOf, Nat.cast_pow]
  conv_rhs => rw [he, zpow_sub₀ hbase', zpow_natCast, zpow_natCast]

/-- A fraction is rounded to a multiple of a power by whole numbers alone. -/
theorem rounds_scaled {base : ℕ} (hbase : 0 < base) (num : ℕ) {den : ℕ} (hden : 0 < den) (e : ℤ) :
    Rounds (num / den / (base : ℚ) ^ e)
      (roundHalfEven (num * (powerOf base e).2) (den * (powerOf base e).1)) := by
  obtain ⟨hpower, hup, hdown⟩ := powerOf_eq hbase e
  have hscaled : ((num * (powerOf base e).2 : ℕ) : ℚ) / (den * (powerOf base e).1 : ℕ) =
      num / den / (base : ℚ) ^ e := by
    rw [← hpower, Nat.cast_mul, Nat.cast_mul, div_div_eq_mul_div, div_mul_eq_mul_div, div_div]
  rw [← hscaled]
  exact rounds_roundHalfEven _ (Nat.mul_pos hden hup)

/-- The greatest power of two that is not above a fraction. -/
theorem top_spec {num den : ℕ} (hnum : 0 < num) (hden : 0 < den) :
    (2 : ℚ) ^ top num den ≤ num / den ∧ (num / den : ℚ) < 2 ^ (top num den + 1) := by
  have hden' : (0 : ℚ) < den := by exact_mod_cast hden
  have hnum1 : (2 : ℚ) ^ (Nat.log2 num : ℤ) ≤ num := by
    rw [zpow_natCast]
    exact_mod_cast Nat.log2_self_le hnum.ne'
  have hnum2 : (num : ℚ) < 2 ^ ((Nat.log2 num : ℤ) + 1) := by
    rw [← Nat.cast_succ, zpow_natCast]
    exact_mod_cast Nat.lt_log2_self
  have hden1 : (2 : ℚ) ^ (Nat.log2 den : ℤ) ≤ den := by
    rw [zpow_natCast]
    exact_mod_cast Nat.log2_self_le hden.ne'
  have hden2 : (den : ℚ) < 2 ^ ((Nat.log2 den : ℤ) + 1) := by
    rw [← Nat.cast_succ, zpow_natCast]
    exact_mod_cast Nat.lt_log2_self
  obtain ⟨guess, hguess⟩ : ∃ guess : ℤ, guess = (Nat.log2 num : ℤ) - Nat.log2 den := ⟨_, rfl⟩
  have hlow : (2 : ℚ) ^ (guess - 1) ≤ num / den := by
    rw [le_div_iff₀ hden']
    calc (2 : ℚ) ^ (guess - 1) * den ≤ 2 ^ (guess - 1) * 2 ^ ((Nat.log2 den : ℤ) + 1) := by
          gcongr
      _ = 2 ^ (Nat.log2 num : ℤ) := by
          rw [← zpow_add₀ two_ne_zero, hguess]
          congr 1
          ring
      _ ≤ num := hnum1
  have hhigh : (num / den : ℚ) < 2 ^ (guess + 1) := by
    rw [div_lt_iff₀ hden']
    calc (num : ℚ) < 2 ^ ((Nat.log2 num : ℤ) + 1) := hnum2
      _ = 2 ^ (guess + 1) * 2 ^ (Nat.log2 den : ℤ) := by
          rw [← zpow_add₀ two_ne_zero, hguess]
          congr 1
          ring
      _ ≤ 2 ^ (guess + 1) * den := by gcongr
  have hpower : num * 2 ^ (-guess).toNat < den * 2 ^ guess.toNat ↔ (num / den : ℚ) < 2 ^ guess := by
    have hp := (powerOf_eq two_pos guess).1
    simp only [powerOf, Nat.cast_pow, Nat.cast_ofNat] at hp
    rw [← hp, div_lt_div_iff₀ hden' (by positivity), ← @Nat.cast_lt ℚ]
    push_cast
    rw [mul_comm (den : ℚ)]
  unfold top
  dsimp only
  rw [← hguess]
  split
  · next h => exact ⟨hlow, by rw [sub_add_cancel]; exact hpower.mp h⟩
  · next h => exact ⟨not_lt.mp fun hlt => h (hpower.mpr hlt), hhigh⟩

/-! ## The nearest number -/

/-- The form of a positive number in a 64-bit word, but for the limit of its exponent. -/
structure Normal (b : Binary) : Prop where
  mantissa_pos : 0 < b.mantissa
  mantissa_lt : b.mantissa < 2 ^ 53
  exponent_ge : -1074 ≤ b.exponent
  leading : 2 ^ 52 ≤ b.mantissa ∨ b.exponent = -1074

def toRat (b : Binary) : ℚ := b.mantissa * 2 ^ b.exponent

/-- How far below a number, in its unit, fractions are still nearest to it. The number below a power
of two is only half a unit away. -/
def below (b : Binary) : ℚ := if b.mantissa = 2 ^ 52 ∧ -1074 < b.exponent then 1 / 4 else 1 / 2

theorem below_pos (b : Binary) : 0 < b.below := by
  unfold below
  split <;> norm_num

theorem below_le (b : Binary) : b.below ≤ 1 / 2 := by
  unfold below
  split <;> norm_num

/-- The fraction is nearer to the number than to any other, or as near if the mantissa is even. -/
structure ReadsAs (b : Binary) (q : ℚ) : Prop where
  lower : b.mantissa - b.below ≤ q / 2 ^ b.exponent
  upper : q / 2 ^ b.exponent ≤ b.mantissa + 1 / 2
  strict : b.mantissa % 2 = 1 →
    b.mantissa - b.below < q / 2 ^ b.exponent ∧ q / 2 ^ b.exponent < b.mantissa + 1 / 2

/-- The unit in which a fraction is rounded. -/
def unit (num den : ℕ) : ℤ := max (top num den - 52) (-1074)

theorem ofFraction_eq {num den m : ℕ} (hnum : 0 < num) (hden : 0 < den)
    (hm : Rounds (num / den / 2 ^ unit num den) m) : ofFraction num den =
      if m = 2 ^ 53 then ⟨2 ^ 52, unit num den + 1⟩ else ⟨m, unit num den⟩ := by
  have hround := (rounds_scaled two_pos num hden (unit num den)).unique (by exact_mod_cast hm)
  have hrun : ofFraction num den =
      if roundHalfEven (num * (powerOf 2 (unit num den)).2) (den * (powerOf 2 (unit num den)).1)
        = 2 ^ 53 then ⟨2 ^ 52, unit num den + 1⟩
      else ⟨roundHalfEven (num * (powerOf 2 (unit num den)).2)
        (den * (powerOf 2 (unit num den)).1), unit num den⟩ := if_neg hnum.ne'
  rw [hrun, hround]

theorem ReadsAs.pos {b : Binary} {q : ℚ} (hb : b.Normal) (h : b.ReadsAs q) : 0 < q := by
  have hm : (1 : ℚ) ≤ b.mantissa := by exact_mod_cast hb.mantissa_pos
  have hscaled : 0 < q / 2 ^ b.exponent := by linarith [h.lower, b.below_le]
  exact (div_pos_iff_of_pos_right (by positivity)).mp hscaled

section

variable {b : Binary} {num den : ℕ} (hnum : 0 < num) (hden : 0 < den)

include hnum hden

theorem top_lt {e k : ℤ} (h : (num / den : ℚ) / 2 ^ e < 2 ^ k) : top num den < k + e := by
  refine (zpow_lt_zpow_iff_right₀ (one_lt_two (α := ℚ))).mp ((top_spec hnum hden).1.trans_lt ?_)
  rw [zpow_add₀ two_ne_zero]
  exact (div_lt_iff₀ (by positivity)).mp h

theorem le_top {e k : ℤ} (h : 2 ^ k ≤ (num / den : ℚ) / 2 ^ e) : k + e ≤ top num den := by
  refine Int.lt_add_one_iff.mp ((zpow_lt_zpow_iff_right₀ (one_lt_two (α := ℚ))).mp
    (lt_of_le_of_lt ?_ (top_spec hnum hden).2))
  rw [zpow_add₀ two_ne_zero]
  exact (le_div_iff₀ (by positivity)).mp h

/-- What is read as a number is rounded in its unit if it has as many digits as the number. -/
theorem ofFraction_of_unit (hb : b.Normal) (h : b.ReadsAs (num / den))
    (hdigits : b.exponent = -1074 ∨ 2 ^ 52 ≤ (num / den : ℚ) / 2 ^ b.exponent) :
    ofFraction num den = b := by
  have hm : (b.mantissa : ℚ) ≤ 2 ^ 53 - 1 := by
    rw [le_sub_iff_add_le]
    exact_mod_cast hb.mantissa_lt
  have htop : top num den < 53 + b.exponent :=
    top_lt hnum hden (h.upper.trans_lt (by norm_num; linarith))
  have hunit : unit num den = max (top num den - 52) (-1074) := rfl
  have hexponent : unit num den = b.exponent := by
    have hge := hb.exponent_ge
    rcases hdigits with he | hdigits
    · omega
    · have htop' : 52 + b.exponent ≤ top num den := le_top hnum hden (by exact_mod_cast hdigits)
      omega
  have hrounds : Rounds (num / den / 2 ^ unit num den) b.mantissa := by
    have hbelow := b.below_le
    rw [hexponent]
    refine ⟨?_, h.upper, fun hodd => ⟨?_, (h.strict hodd).2⟩⟩
    · linarith [h.lower]
    · linarith [(h.strict hodd).1]
  rw [ofFraction_eq hnum hden hrounds, if_neg hb.mantissa_lt.ne, hexponent]

/-- Just below a power of two, where the unit is half as large, it is rounded up to the power. -/
theorem ofFraction_of_lt (hb : b.Normal) (h : b.ReadsAs (num / den)) (hne : b.exponent ≠ -1074)
    (hlt : (num / den : ℚ) / 2 ^ b.exponent < 2 ^ 52) : ofFraction num den = b := by
  have hge := hb.exponent_ge
  have hlower := h.lower
  have hmantissa : b.mantissa = 2 ^ 52 := by
    have hle : (b.mantissa : ℚ) < 2 ^ 52 + 1 := by linarith [b.below_le]
    have hle' : b.mantissa < 2 ^ 52 + 1 := by exact_mod_cast hle
    have hleading := hb.leading.resolve_right hne
    omega
  have hquarter : b.below = 1 / 4 := if_pos ⟨hmantissa, by omega⟩
  rw [hquarter, hmantissa] at hlower
  push_cast at hlower
  have htop : top num den < 52 + b.exponent := top_lt hnum hden (by exact_mod_cast hlt)
  have htop' : 51 + b.exponent ≤ top num den := by
    refine le_top hnum hden ?_
    norm_num at hlower ⊢
    linarith
  have hunit : unit num den = max (top num den - 52) (-1074) := rfl
  have hexponent : unit num den = b.exponent - 1 := by omega
  have hrounds : Rounds (num / den / 2 ^ unit num den) (2 ^ 53) := by
    have hscaled : (num / den : ℚ) / 2 ^ (b.exponent - 1) = 2 * (num / den / 2 ^ b.exponent) := by
      rw [zpow_sub_one₀ two_ne_zero]
      field_simp
    rw [hexponent, hscaled]
    refine ⟨?_, ?_, fun hodd => absurd hodd (by decide)⟩ <;> push_cast <;> linarith
  rw [ofFraction_eq hnum hden hrounds, if_pos rfl, hexponent, sub_add_cancel, ← hmantissa]

end

theorem ofFraction_of_readsAs {b : Binary} {num den : ℕ} (hb : b.Normal) (hden : 0 < den)
    (h : b.ReadsAs (num / den)) : ofFraction num den = b := by
  have hnum : 0 < num := by
    have hpos := h.pos hb
    by_contra hzero
    rw [Nat.eq_zero_of_not_pos hzero] at hpos
    simp at hpos
  by_cases hdigits : b.exponent = -1074 ∨ 2 ^ 52 ≤ (num / den : ℚ) / 2 ^ b.exponent
  · exact ofFraction_of_unit hnum hden hb h hdigits
  · rw [not_or, not_le] at hdigits
    exact ofFraction_of_lt hnum hden hb h hdigits.1 hdigits.2

/-- What is nearest to a fraction has the form of a number in a 64-bit word, unless it is zero. -/
theorem normal_ofFraction {num den : ℕ} (hden : 0 < den)
    (h : (ofFraction num den).mantissa ≠ 0) : (ofFraction num den).Normal := by
  have hnum : 0 < num := by
    by_contra hzero
    rw [Nat.eq_zero_of_not_pos hzero] at h
    exact h rfl
  obtain ⟨hlow, hhigh⟩ := top_spec hnum hden
  have hunit : unit num den = max (top num den - 52) (-1074) := rfl
  have hlt : (num / den : ℚ) / 2 ^ unit num den < 2 ^ 53 := by
    rw [div_lt_iff₀ (by positivity), ← zpow_natCast, ← zpow_add₀ two_ne_zero]
    refine hhigh.trans_le (zpow_le_zpow_right₀ one_le_two ?_)
    push_cast
    omega
  obtain ⟨m, hm⟩ : ∃ m, Rounds (num / den / 2 ^ unit num den) m :=
    ⟨_, by exact_mod_cast rounds_scaled two_pos num hden (unit num den)⟩
  have hle : m ≤ 2 ^ 53 := by
    have hm' : (m : ℚ) < 2 ^ 53 + 1 := by linarith [hm.lower]
    exact Nat.lt_succ_iff.mp (by exact_mod_cast hm')
  rw [ofFraction_eq hnum hden hm] at h ⊢
  split at h
  · next heq =>
    rw [if_pos heq]
    exact ⟨by norm_num, by norm_num, by dsimp only; omega, Or.inl le_rfl⟩
  · next hne =>
    rw [if_neg hne]
    refine ⟨Nat.pos_of_ne_zero h, lt_of_le_of_ne hle hne, by dsimp only; omega, ?_⟩
    by_cases hsmall : unit num den = -1074
    · exact Or.inr hsmall
    have htop : unit num den = top num den - 52 := by omega
    have hge : (2 : ℚ) ^ 52 ≤ num / den / 2 ^ unit num den := by
      rw [le_div_iff₀ (by positivity), ← zpow_natCast, ← zpow_add₀ two_ne_zero]
      refine le_trans (zpow_le_zpow_right₀ one_le_two ?_) hlow
      push_cast
      omega
    have hm' : (2 : ℚ) ^ 52 - 1 < m := by linarith [hm.upper]
    have hm'' : (2 : ℚ) ^ 52 < m + 1 := by linarith
    exact Or.inl (Nat.lt_succ_iff.mp (by exact_mod_cast hm''))

/-! ## Decimals near a number -/

/-- The least number of quarter units at which a decimal may read back. -/
def lowQuarters (b : Binary) : ℕ :=
  if b.mantissa = 2 ^ 52 ∧ -1074 < b.exponent then 4 * b.mantissa - 1 else 4 * b.mantissa - 2

theorem lowQuarters_eq {b : Binary} (hb : b.Normal) :
    (b.lowQuarters : ℚ) = 4 * (b.mantissa - b.below) := by
  have hpos := hb.mantissa_pos
  unfold lowQuarters below
  split
  · rw [Nat.cast_sub (by omega)]
    push_cast
    ring
  · rw [Nat.cast_sub (by omega)]
    push_cast
    ring

/-- The test whether a decimal reads back, in quarters of the unit. -/
theorem readsBack_iff {b : Binary} (hb : b.Normal) {num den : ℕ} (hden : 0 < den) :
    b.readsBack num den = true ↔ b.ReadsAs (num / den * 2 ^ (b.exponent - 2)) := by
  have hden' : (0 : ℚ) < den := by exact_mod_cast hden
  have hscaled : (num / den * 2 ^ (b.exponent - 2) : ℚ) / 2 ^ b.exponent = num / den / 4 := by
    rw [zpow_sub₀ two_ne_zero]
    field_simp
    norm_num
  have hlow := lowQuarters_eq hb
  have hle (n : ℕ) : n * den ≤ num ↔ (n : ℚ) ≤ num / den := by
    rw [le_div_iff₀ hden']
    exact_mod_cast Iff.rfl
  have hge (n : ℕ) : num ≤ n * den ↔ (num / den : ℚ) ≤ n := by
    rw [div_le_iff₀ hden']
    exact_mod_cast Iff.rfl
  have hlt (n : ℕ) : n * den < num ↔ (n : ℚ) < num / den := by
    rw [lt_div_iff₀ hden']
    exact_mod_cast Iff.rfl
  have hgt (n : ℕ) : num < n * den ↔ (num / den : ℚ) < n := by
    rw [div_lt_iff₀ hden']
    exact_mod_cast Iff.rfl
  have htest : b.readsBack num den = if b.mantissa % 2 = 0
      then b.lowQuarters * den ≤ num && num ≤ (4 * b.mantissa + 2) * den
      else b.lowQuarters * den < num && num < (4 * b.mantissa + 2) * den := rfl
  rw [htest]
  split
  · next heven =>
    rw [Bool.and_eq_true, decide_eq_true_eq, decide_eq_true_eq, hle, hge, hlow]
    push_cast
    constructor
    · rintro ⟨hlower, hupper⟩
      refine ⟨?_, ?_, fun hodd => by omega⟩ <;> rw [hscaled] <;> linarith
    · rintro ⟨hlower, hupper, -⟩
      rw [hscaled] at hlower hupper
      constructor <;> linarith
  · next hodd =>
    rw [Bool.and_eq_true, decide_eq_true_eq, decide_eq_true_eq, hlt, hgt, hlow]
    push_cast
    constructor
    · rintro ⟨hlower, hupper⟩
      refine ⟨?_, ?_, fun _ => ⟨?_, ?_⟩⟩ <;> rw [hscaled] <;> linarith
    · rintro ⟨-, -, hstrict⟩
      obtain ⟨hlower, hupper⟩ := hstrict (by omega)
      rw [hscaled] at hlower hupper
      constructor <;> linarith

theorem readsBack_quarters_iff {b : Binary} (hb : b.Normal) (n : ℕ) (scale : ℤ) :
    b.readsBack (b.quarters n scale).1 (b.quarters n scale).2 = true ↔
      b.ReadsAs (n * 10 ^ scale) := by
  obtain ⟨hten, -, hden⟩ := powerOf_eq (by decide : 0 < 10) scale
  obtain ⟨htwo, hup, hdown⟩ := powerOf_eq two_pos (b.exponent - 2)
  rw [Nat.cast_ofNat] at hten htwo
  have hden' : ((powerOf 10 scale).2 : ℚ) ≠ 0 := by exact_mod_cast hden.ne'
  have hup' : ((powerOf 2 (b.exponent - 2)).1 : ℚ) ≠ 0 := by exact_mod_cast hup.ne'
  have hdown' : ((powerOf 2 (b.exponent - 2)).2 : ℚ) ≠ 0 := by exact_mod_cast hdown.ne'
  have hquarters : ((b.quarters n scale).1 : ℚ) / (b.quarters n scale).2 *
      2 ^ (b.exponent - 2) = n * 10 ^ scale := by
    rw [← hten, ← htwo, quarters]
    push_cast
    field_simp
  have hpos : 0 < (b.quarters n scale).2 := Nat.mul_pos hden hup
  rw [readsBack_iff hb hpos, hquarters]

/-- A decimal that is nearer to a number than the midpoints is read as it. -/
theorem readsAs_of_near {b : Binary} {q : ℚ} (h : |q - b.toRat| < b.below * 2 ^ b.exponent) :
    b.ReadsAs q := by
  have hunit : (0 : ℚ) < 2 ^ b.exponent := by positivity
  have hnear : |q / 2 ^ b.exponent - b.mantissa| < b.below := by
    have heq : q / 2 ^ b.exponent - b.mantissa = (q - b.toRat) / 2 ^ b.exponent := by
      rw [toRat]
      field_simp
    rw [heq, abs_div, abs_of_pos hunit, div_lt_iff₀ hunit]
    exact h
  obtain ⟨hlower, hupper⟩ := abs_lt.mp hnear
  have hbelow := b.below_le
  exact ⟨by linarith, by linarith, fun _ => ⟨by linarith, by linarith⟩⟩

theorem fraction_eq (b : Binary) : (b.fraction.1 : ℚ) / b.fraction.2 = b.toRat ∧
    0 < b.fraction.2 := by
  obtain ⟨htwo, -, hdown⟩ := powerOf_eq two_pos b.exponent
  refine ⟨?_, hdown⟩
  rw [Nat.cast_ofNat] at htwo
  rw [toRat, ← htwo, fraction, Nat.cast_mul, mul_div_assoc]

theorem readsAs_of_onGrid? {b : Binary} (hb : b.Normal) {scale : ℤ} {n : ℕ}
    (h : b.onGrid? scale = some n) : b.ReadsAs (n * 10 ^ scale) := by
  have hfound := List.find?_some h
  exact (readsBack_quarters_iff hb n scale).mp hfound

/-- On a grid that is fine enough there is a decimal that is read as the number. -/
theorem onGrid?_isSome {b : Binary} (hb : b.Normal) {scale : ℤ}
    (hfine : (10 : ℚ) ^ scale < 2 * b.below * 2 ^ b.exponent) :
    (b.onGrid? scale).isSome = true := by
  obtain ⟨hfraction, hden⟩ := fraction_eq b
  have hrounds := rounds_scaled (by decide : 0 < 10) b.fraction.1 hden scale
  rw [hfraction, Nat.cast_ofNat] at hrounds
  obtain ⟨near, hnear⟩ : ∃ near, near = roundHalfEven (b.fraction.1 * (powerOf 10 scale).2)
    (b.fraction.2 * (powerOf 10 scale).1) := ⟨_, rfl⟩
  rw [← hnear] at hrounds
  have hstep : (0 : ℚ) < 10 ^ scale := by positivity
  have hclose : |(near * 10 ^ scale : ℚ) - b.toRat| < b.below * 2 ^ b.exponent := by
    have hlower := (le_div_iff₀ hstep).mp hrounds.lower
    have hupper := (div_le_iff₀ hstep).mp hrounds.upper
    rw [abs_lt]
    constructor <;> linarith
  unfold onGrid?
  refine List.find?_isSome.mpr ⟨near, List.mem_cons.mpr (Or.inl hnear), ?_⟩
  exact (readsBack_quarters_iff hb near scale).mpr (readsAs_of_near hclose)

/-! ## The shortest digits -/

theorem length_toString_pos (n : ℕ) : 0 < (toString n).length := by
  rw [Nat.toString_eq_repr]
  exact Nat.length_repr_pos

theorem lt_pow_length_toString (n : ℕ) : n < 10 ^ (toString n).length :=
  (Nat.length_repr_le_iff (length_toString_pos n)).mp le_rfl

theorem pow_length_toString_le {n : ℕ} (h : 0 < n) : 10 ^ ((toString n).length - 1) ≤ n := by
  by_contra hlt
  have hpos := length_toString_pos n
  by_cases hone : (toString n).length - 1 = 0
  · rw [hone, pow_zero] at hlt
    omega
  · have hle : (toString n).length ≤ (toString n).length - 1 :=
      (Nat.length_repr_le_iff (Nat.pos_of_ne_zero hone)).mpr (not_le.mp hlt)
    omega

/-- No number is below the place of its first digit. -/
theorem firstDigit_le {b : Binary} (hb : b.Normal) : (10 : ℚ) ^ b.firstDigit ≤ b.toRat := by
  obtain ⟨hfraction, hden⟩ := fraction_eq b
  obtain ⟨num, hnum⟩ : ∃ num, num = b.fraction.1 := ⟨_, rfl⟩
  obtain ⟨den, hden'⟩ : ∃ den, den = b.fraction.2 := ⟨_, rfl⟩
  have hfirst : b.firstDigit = if den ≤ num then ((toString (num / den)).length : ℤ) - 1
      else -((toString ((den - 1) / num)).length : ℤ) := by
    rw [hnum, hden']
    rfl
  rw [← hnum, ← hden'] at hfraction
  rw [← hden'] at hden
  have hdenq : (0 : ℚ) < den := by exact_mod_cast hden
  rw [hfirst, ← hfraction]
  split
  · next hle =>
    have hdiv : 0 < num / den := Nat.div_pos hle hden
    have hplace := pow_length_toString_le hdiv
    have hpos := length_toString_pos (num / den)
    have hexponent : ((toString (num / den)).length : ℤ) - 1 =
        (((toString (num / den)).length - 1 : ℕ) : ℤ) := by omega
    rw [hexponent, zpow_natCast, le_div_iff₀ hdenq]
    exact_mod_cast (Nat.mul_le_mul_right den hplace).trans (Nat.div_mul_le_self num den)
  · next hlt =>
    have hnum0 : 0 < num := by
      have hpos : (0 : ℚ) < b.toRat := by
        have := hb.mantissa_pos
        unfold toRat
        positivity
      rw [← hfraction, div_pos_iff_of_pos_right hdenq] at hpos
      exact_mod_cast hpos
    have hnumq : (0 : ℚ) < num := by exact_mod_cast hnum0
    have hplace := lt_pow_length_toString ((den - 1) / num)
    have hle : den ≤ num * 10 ^ (toString ((den - 1) / num)).length := by
      have hstep := Nat.lt_mul_div_succ (den - 1) hnum0
      have hmul := Nat.mul_le_mul_left num hplace
      rw [Nat.succ_eq_add_one] at hmul
      omega
    rw [zpow_neg, zpow_natCast, le_div_iff₀ hdenq, inv_mul_le_iff₀ (by positivity), mul_comm]
    exact_mod_cast hle

/-- 17 digits make a grid that is fine enough, as `2 ^ 53` is less than `10 ^ 16`. -/
theorem grid_of_digits_lt {b : Binary} (hb : b.Normal) :
    (10 : ℚ) ^ (b.firstDigit - (16 : ℕ)) < 2 * b.below * 2 ^ b.exponent := by
  have hunit : (0 : ℚ) < 2 ^ b.exponent := by positivity
  have hmantissa : (b.mantissa : ℚ) < 2 * b.below * 10 ^ 16 := by
    have hlt : (b.mantissa : ℚ) < 2 ^ 53 := by exact_mod_cast hb.mantissa_lt
    unfold below
    split
    · next h =>
      rw [h.1]
      norm_num
    · norm_num at hlt ⊢
      linarith
  calc (10 : ℚ) ^ (b.firstDigit - (16 : ℕ)) = 10 ^ b.firstDigit / 10 ^ 16 := by
        rw [zpow_sub₀ (by norm_num), zpow_natCast]
    _ ≤ b.mantissa * 2 ^ b.exponent / 10 ^ 16 := by
        gcongr
        exact firstDigit_le hb
    _ < 2 * b.below * 10 ^ 16 * 2 ^ b.exponent / 10 ^ 16 := by gcongr
    _ = 2 * b.below * 2 ^ b.exponent := by field_simp

/-- The shortest digits of a binary number read back as it. -/
theorem readsAs_shortest {b : Binary} (hb : b.Normal) :
    b.ReadsAs (b.shortest.1 * 10 ^ b.shortest.2) := by
  have hne : b.mantissa ≠ 0 := hb.mantissa_pos.ne'
  unfold shortest
  rw [if_neg hne]
  dsimp only
  split
  · next r hfound =>
    obtain ⟨k, -, hk⟩ := List.exists_of_findSome?_eq_some hfound
    obtain ⟨n, hn, rfl⟩ := Option.map_eq_some_iff.mp hk
    exact readsAs_of_onGrid? hb hn
  · next hnone =>
    have hlast := List.findSome?_eq_none_iff.mp hnone 16 (by decide)
    rw [Option.map_eq_none_iff] at hlast
    have hsome := onGrid?_isSome hb (grid_of_digits_lt hb)
    rw [hlast] at hsome
    cases hsome

/-! ## Decimals -/

theorem ofDecimal_eq (digits : ℕ) (e : ℤ) : ∃ num den : ℕ, 0 < den ∧
    ofDecimal digits e = ofFraction num den ∧ (num / den : ℚ) = digits * 10 ^ e := by
  obtain ⟨hten, -, hden⟩ := powerOf_eq (by decide : 0 < 10) e
  rw [Nat.cast_ofNat] at hten
  refine ⟨digits * (powerOf 10 e).1, (powerOf 10 e).2, hden, rfl, ?_⟩
  rw [← hten, Nat.cast_mul, mul_div_assoc]

theorem normal_ofDecimal {digits : ℕ} {e : ℤ} (h : (ofDecimal digits e).mantissa ≠ 0) :
    (ofDecimal digits e).Normal := by
  obtain ⟨num, den, hden, heq, -⟩ := ofDecimal_eq digits e
  rw [heq] at h ⊢
  exact normal_ofFraction hden h

theorem ofDecimal_of_readsAs {b : Binary} (hb : b.Normal) {digits : ℕ} {e : ℤ}
    (h : b.ReadsAs (digits * 10 ^ e)) : ofDecimal digits e = b := by
  obtain ⟨num, den, hden, heq, hvalue⟩ := ofDecimal_eq digits e
  rw [heq]
  exact ofFraction_of_readsAs hb hden (hvalue ▸ h)

/-- What reads as a number that fits into a 64-bit word is neither too large nor too small. -/
theorem ReadsAs.range {b : Binary} (hb : b.Normal) (hfits : b.overflows = false) {q : ℚ}
    (h : b.ReadsAs q) : (10 : ℚ) ^ (-324 : ℤ) < q ∧ q < 10 ^ (309 : ℤ) := by
  have hunit : (0 : ℚ) < 2 ^ b.exponent := by positivity
  have hexponent : b.exponent ≤ 971 := not_lt.mp (of_decide_eq_false hfits)
  have hlt : (b.mantissa : ℚ) ≤ 2 ^ 53 - 1 := by
    rw [le_sub_iff_add_le]
    exact_mod_cast hb.mantissa_lt
  have hge : (1 : ℚ) ≤ b.mantissa := by exact_mod_cast hb.mantissa_pos
  constructor
  · have hsmall : 2 * 2 ^ 1074 < 10 ^ 324 := by decide +kernel
    calc (10 : ℚ) ^ (-324 : ℤ) < 1 / 2 * 2 ^ (-1074 : ℤ) := by
          rw [zpow_neg, zpow_neg, one_div, ← mul_inv]
          exact inv_strictAnti₀ (by positivity) (by exact_mod_cast hsmall)
      _ ≤ 1 / 2 * 2 ^ b.exponent := by
          gcongr
          · norm_num
          · exact hb.exponent_ge
      _ ≤ q := by
          rw [← le_div_iff₀ hunit]
          linarith [h.lower, b.below_le]
  · have hlarge : 2 ^ 53 * 2 ^ 971 < 10 ^ 309 := by decide +kernel
    calc q ≤ (b.mantissa + 1 / 2) * 2 ^ b.exponent := (div_le_iff₀ hunit).mp h.upper
      _ ≤ 2 ^ 53 * 2 ^ (971 : ℤ) := by
          gcongr
          · linarith
          · norm_num
      _ < 10 ^ (309 : ℤ) := by exact_mod_cast hlarge

end WebKeys.Binary
