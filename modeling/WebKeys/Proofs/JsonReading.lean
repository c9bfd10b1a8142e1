import WebKeys.Proofs.JsonGrammar
import WebKeys.Proofs.NearestBinary

/-!
# A line of JSON is read back

The text of a value on one line is a text of the grammar, so it is read. What is read is the same
value: strings, names and whole numbers are the very ones, and a fraction is the same 64-bit number,
spelt by the shortest digits.

* `numeralText_magnitudeText`: a fraction is read as digits of the same number.
* `textOf_spaced`: the line is a text of the same value, so `readAny?` reads it as such.
* `Decimal.same_finite_iff`: what is written alike is the same number.
-/

namespace WebKeys

/-- A number fits into a 64-bit word; so does infinity, and what is no number at all. -/
def Decimal.fits : Decimal → Bool
  | .finite _ digits e => !(Binary.ofDecimal digits e).overflows
  | _ => true

namespace Json

/-! ## Digits -/

theorem digitsValue_append (cs ds : List Char) :
    digitsValue (cs ++ ds) = digitsValue cs * 10 ^ ds.length + digitsValue ds := by
  induction ds using List.reverseRecOn with
  | nil => simp [digitsValue]
  | append_singleton ds d ih =>
    have hlast (es : List Char) :
        digitsValue (es ++ [d]) = 10 * digitsValue es + (d.toNat - 48) := by simp [digitsValue]
    rw [← List.append_assoc, hlast, hlast, ih, List.length_append, List.length_singleton, pow_succ]
    ring

theorem digitsValue_zeros (n : ℕ) (cs : List Char) :
    digitsValue (Decimal.zeros n ++ cs) = digitsValue cs := by
  have hzeros : digitsValue (Decimal.zeros n) = 0 := by
    induction n with
    | zero => rfl
    | succ n ih =>
      have hcons : Decimal.zeros (n + 1) = ['0'] ++ Decimal.zeros n := rfl
      rw [hcons, digitsValue_append, ih]
      simp [digitsValue]
  rw [digitsValue_append, hzeros, zero_mul, zero_add]

theorem digitsValue_append_zeros (cs : List Char) (n : ℕ) :
    digitsValue (cs ++ Decimal.zeros n) = digitsValue cs * 10 ^ n := by
  have hzeros := digitsValue_zeros n []
  rw [List.append_nil] at hzeros
  rw [digitsValue_append, hzeros, Decimal.zeros, List.length_replicate]
  rfl

theorem digitsValue_lt {cs : List Char} (h : ∀ c ∈ cs, c.isDigit = true) :
    digitsValue cs < 10 ^ cs.length := by
  have hdigits : digitsValue cs = Text.ofDigits (cs.map (·.toNat - 48)) := by
    rw [digitsValue, Text.ofDigits, List.foldl_map]
  have hlength : cs.length = (cs.map (·.toNat - 48)).length := (List.length_map _).symm
  rw [hdigits, hlength]
  refine Text.ofDigits_lt fun d hd => ?_
  obtain ⟨c, hc, rfl⟩ := List.mem_map.mp hd
  have := Text.toNat_of_isDigit (h c hc)
  omega

theorem digitsValue_toString (n : ℕ) : digitsValue (toString n).toList = n := by
  rw [Nat.toString_eq_repr, Nat.repr_eq_ofList_toDigits, String.toList_ofList, digitsValue]
  have hchars := Nat.ofDigitChars_ten_toDigits (n := n)
  rw [Nat.ofDigitChars_eq_foldl] at hchars
  exact hchars

theorem wholeText_toString (n : ℕ) : WholeText (toString n).toList where
  ne_nil hnil := by
    have hpos := Binary.length_toString_pos n
    rw [← String.length_toList, hnil] at hpos
    exact hpos.ne rfl
  digits _ hc := isDigit_of_mem_toString hc
  leading := by
    by_cases hzero : n = 0
    · subst hzero
      exact Or.inl rfl
    -- A zero in front would leave too few digits for the number.
    refine Or.inr fun hhead => ?_
    obtain ⟨cs, hcs⟩ := List.head?_eq_some_iff.mp hhead
    have hlt : digitsValue cs < 10 ^ cs.length := digitsValue_lt fun c hc =>
      isDigit_of_mem_toString (hcs ▸ List.mem_cons_of_mem _ hc)
    have hvalue := digitsValue_toString n
    have hlength : (toString n).length - 1 = cs.length := by
      rw [← String.length_toList, hcs, List.length_cons, Nat.add_sub_cancel]
    have hle := Binary.pow_length_toString_le (Nat.pos_of_ne_zero hzero)
    have hdrop : digitsValue ('0' :: cs) = digitsValue cs := digitsValue_zeros 1 cs
    rw [hcs, hdrop] at hvalue
    rw [hlength] at hle
    omega

/-! ## Fractions -/

/-- The characters are a numeral with a fraction or an exponent, for the number. -/
inductive Spells (q : ℚ) : List Char → Prop
  | of {whole fraction fs es : List Char} {exponent : Option Int} (hwhole : WholeText whole)
      (hfraction : FractionText fraction fs) (hexponent : ExponentText exponent es)
      (hmark : (fraction.isEmpty && exponent.isNone) = false)
      (hvalue : (digitsValue (whole ++ fraction) : ℚ) *
        10 ^ (exponent.getD 0 - fraction.length : ℤ) = q) : Spells q (whole ++ (fs ++ es))

/-- Dropping trailing zeros does not change the value. -/
theorem strip_spec {digits : ℕ} (hpos : 0 < digits) (e : ℤ) :
    0 < (Decimal.strip digits e).1 ∧
      ((Decimal.strip digits e).1 : ℚ) * 10 ^ (Decimal.strip digits e).2 = digits * 10 ^ e := by
  fun_induction Decimal.strip digits e with
  | case1 digits e h ih =>
    obtain ⟨hstrip, hvalue⟩ := ih (Nat.div_pos (by omega) (by decide))
    refine ⟨hstrip, hvalue.trans ?_⟩
    have hdigits : (digits : ℚ) = (digits / 10 : ℕ) * 10 := by
      exact_mod_cast (Nat.div_mul_cancel (Nat.dvd_of_mod_eq_zero h.2)).symm
    rw [hdigits, zpow_add_one₀ (by norm_num)]
    ring
  | case2 digits e h => exact ⟨hpos, rfl⟩

theorem isDigit_of_mem_zeros {n : ℕ} {c : Char} (h : c ∈ Decimal.zeros n) : c.isDigit = true := by
  rw [List.eq_of_mem_replicate h]
  rfl

theorem exponentText_spec (e : ℤ) : ExponentText (some e) (Decimal.exponentText e) := by
  have hdigits : ∀ c ∈ Decimal.zeros (2 - (toString e.natAbs).toList.length) ++
      (toString e.natAbs).toList, c.isDigit = true := fun c hc =>
    (List.mem_append.mp hc).elim isDigit_of_mem_zeros isDigit_of_mem_toString
  have hvalue : digitsValue (Decimal.zeros (2 - (toString e.natAbs).toList.length) ++
      (toString e.natAbs).toList) = e.natAbs := by
    rw [digitsValue_zeros, digitsValue_toString]
  have hne : Decimal.zeros (2 - (toString e.natAbs).toList.length) ++
      (toString e.natAbs).toList ≠ [] :=
    List.append_ne_nil_of_right_ne_nil _ (wholeText_toString e.natAbs).ne_nil
  by_cases hneg : e < 0
  · have htext := ExponentText.present (Or.inl rfl) .minus hne hdigits
    rw [if_pos rfl, hvalue] at htext
    have he : -(e.natAbs : ℤ) = e := by omega
    rw [he] at htext
    unfold Decimal.exponentText
    rw [if_pos hneg]
    exact htext
  · have htext := ExponentText.present (Or.inl rfl) .plus hne hdigits
    rw [if_neg Bool.false_ne_true, hvalue] at htext
    have he : (e.natAbs : ℤ) = e := by omega
    rw [he] at htext
    unfold Decimal.exponentText
    rw [if_neg hneg]
    exact htext

theorem Spells.of_fraction {q : ℚ} {whole fraction : List Char} (hwhole : WholeText whole)
    (hne : fraction ≠ []) (hdigits : ∀ c ∈ fraction, c.isDigit = true)
    (hvalue : (digitsValue (whole ++ fraction) : ℚ) * 10 ^ (-(fraction.length : ℤ)) = q) :
    Spells q (whole ++ '.' :: fraction) := by
  have hspells : Spells q (whole ++ ('.' :: fraction ++ [])) := by
    refine .of hwhole (.present hne hdigits) .absent ?_ ?_
    · rw [List.isEmpty_eq_false_iff.mpr hne, Bool.false_and]
    · rw [Option.getD_none, zero_sub]
      exact hvalue
  rwa [List.append_nil] at hspells

section

variable {digits : ℕ} (hpos : 0 < digits)

include hpos

theorem head_toString_ne : (toString digits).toList.head? ≠ some '0' := by
  rcases (wholeText_toString digits).leading with hzero | hhead
  · have hvalue := digitsValue_toString digits
    rw [hzero] at hvalue
    exact absurd hvalue hpos.ne
  · exact hhead

theorem spells_positional (point : ℤ) :
    Spells (digits * 10 ^ (point - (toString digits).toList.length))
      (Decimal.positional (toString digits).toList point) := by
  have hwhole := wholeText_toString digits
  have hhead := head_toString_ne hpos
  have hvalue := digitsValue_toString digits
  generalize (toString digits).toList = ds at hwhole hhead hvalue ⊢
  unfold Decimal.positional
  split
  · next hle =>
    have hzero : WholeText ['0'] := ⟨by simp, by simp, Or.inl rfl⟩
    refine .of_fraction hzero (List.append_ne_nil_of_right_ne_nil _ hwhole.ne_nil)
      (fun c hc => (List.mem_append.mp hc).elim isDigit_of_mem_zeros (hwhole.digits c)) ?_
    have hdigits : digitsValue (['0'] ++ (Decimal.zeros point.natAbs ++ ds)) = digits := by
      rw [← hvalue, ← digitsValue_zeros point.natAbs ds]
      exact digitsValue_zeros 1 _
    rw [hdigits, List.length_append, Decimal.zeros, List.length_replicate]
    congr 2
    omega
  split
  · next hgt hlt =>
    have hne : ds.take point.toNat ≠ [] := by
      rw [Ne, List.take_eq_nil_iff]
      rintro (hzero | hnil)
      · omega
      · exact hwhole.ne_nil hnil
    have htake : WholeText (ds.take point.toNat) := by
      refine ⟨hne, fun c hc => hwhole.digits c (List.mem_of_mem_take hc), Or.inr ?_⟩
      rwa [List.head?_take, if_neg (by omega)]
    refine .of_fraction htake ?_ (fun c hc => hwhole.digits c (List.mem_of_mem_drop hc)) ?_
    · rw [Ne, List.drop_eq_nil_iff]
      omega
    · rw [List.take_append_drop, hvalue, List.length_drop]
      congr 2
      omega
  · next hgt hge =>
    have hzeros : WholeText (ds ++ Decimal.zeros (point.toNat - ds.length)) := by
      refine ⟨List.append_ne_nil_of_left_ne_nil hwhole.ne_nil _, fun c hc =>
        (List.mem_append.mp hc).elim (hwhole.digits c) isDigit_of_mem_zeros, Or.inr ?_⟩
      rwa [List.head?_append_of_ne_nil _ hwhole.ne_nil]
    refine .of_fraction hzeros (List.cons_ne_nil _ _) (by simp) ?_
    have hdigits : digitsValue (ds ++ Decimal.zeros (point.toNat - ds.length) ++ ['0']) =
        digits * 10 ^ (point.toNat - ds.length) * 10 := by
      rw [← hvalue, ← digitsValue_append_zeros]
      exact digitsValue_append_zeros _ 1
    have hpoint : point - ds.length = (point.toNat - ds.length : ℕ) := by omega
    rw [hdigits, hpoint, zpow_natCast]
    push_cast
    simp [mul_assoc]

theorem spells_scientific (first : ℤ) :
    Spells (digits * 10 ^ (first + 1 - (toString digits).toList.length))
      (Decimal.scientific (toString digits).toList first) := by
  have hwhole := wholeText_toString digits
  have hhead := head_toString_ne hpos
  have hvalue := digitsValue_toString digits
  generalize (toString digits).toList = ds at hwhole hhead hvalue ⊢
  match ds, hwhole, hhead, hvalue with
  | [], hwhole, _, _ => exact absurd rfl hwhole.ne_nil
  | [d], hwhole, _, hvalue =>
    refine .of hwhole .absent (exponentText_spec first) rfl ?_
    rw [List.append_nil, hvalue]
    simp
  | d :: d' :: rest, hwhole, hhead, hvalue =>
    have hfirst : WholeText [d] :=
      ⟨by simp, fun c hc => hwhole.digits c (by simp_all), Or.inr hhead⟩
    have hrest : FractionText (d' :: rest) ('.' :: d' :: rest) :=
      .present (by simp) fun c hc => hwhole.digits c (List.mem_cons_of_mem _ hc)
    refine .of hfirst hrest (exponentText_spec first) rfl ?_
    rw [List.singleton_append, hvalue]
    simp only [Option.getD_some, List.length_cons]
    congr 2
    push_cast
    ring

end

/-- Digits that a normal binary number reads as are kept as they stand. -/
theorem fractionValue_of_readsAs {b : Binary} (hb : b.Normal) (hfits : b.overflows = false)
    {digits : ℕ} {e : ℤ} (h : b.ReadsAs (digits * 10 ^ e)) (negative : Bool) :
    fractionValue negative digits e = .finite negative digits e := by
  have hpos : 0 < digits := by
    refine Nat.pos_of_ne_zero fun hzero => ?_
    have hq := h.pos hb
    rw [hzero] at hq
    simp at hq
  obtain ⟨hlow, hhigh⟩ := h.range hb hfits
  have hplace := Binary.pow_length_toString_le hpos
  have hplace' := Binary.lt_pow_length_toString digits
  have hlength := Binary.length_toString_pos digits
  obtain ⟨length, hlength'⟩ : ∃ length, length = (toString digits).length := ⟨_, rfl⟩
  rw [← hlength'] at hplace hplace' hlength
  have hten : (1 : ℚ) < 10 := by norm_num
  have hten' : (10 : ℚ) ≠ 0 := by norm_num
  have hsmall : ((length - 1 : ℕ) : ℤ) + e < 309 := by
    refine (zpow_lt_zpow_iff_right₀ hten).mp (lt_of_le_of_lt ?_ hhigh)
    rw [zpow_add₀ hten', zpow_natCast]
    exact mul_le_mul_of_nonneg_right (by exact_mod_cast hplace) (by positivity)
  have hlarge : -324 < (length : ℤ) + e := by
    refine (zpow_lt_zpow_iff_right₀ hten).mp (hlow.trans ?_)
    rw [zpow_add₀ hten', zpow_natCast]
    exact mul_lt_mul_of_pos_right (by exact_mod_cast hplace') (by positivity)
  unfold fractionValue
  dsimp only
  rw [← hlength', if_neg hpos.ne', if_neg (by omega), if_neg (by omega),
    Binary.ofDecimal_of_readsAs hb h, hfits, if_neg Bool.false_ne_true]

/-- What spells a number is read as digits of that number. -/
theorem numeralText_of_spells {b : Binary} (hb : b.Normal) (hfits : b.overflows = false) {q : ℚ}
    (hq : b.ReadsAs q) {cs : List Char} (h : Spells q cs) (negative : Bool) {longest : ℕ}
    (hlength : cs.length + negative.toNat ≤ longest) : ∃ digits e,
      Binary.ofDecimal digits e = b ∧
        NumeralText longest negative (.float (.finite negative digits e)) cs := by
  cases h with
  | @of whole fraction fs es exponent hwhole hfraction hexponent hmark hvalue =>
    rw [← hvalue] at hq
    refine ⟨_, _, Binary.ofDecimal_of_readsAs hb hq, ?_⟩
    rw [List.length_append] at hlength
    have htext : NumeralText longest negative _ _ :=
      .of hwhole (by omega) hfraction hexponent
    rw [numeralValue, hmark, if_neg Bool.false_ne_true,
      fractionValue_of_readsAs hb hfits hq] at htext
    exact htext

/-- The text of a number that is not zero spells a fraction that reads back. -/
theorem spells_magnitudeText {digits : ℕ} {e : ℤ}
    (hne : (Binary.ofDecimal digits e).mantissa ≠ 0) : ∃ q,
      (Binary.ofDecimal digits e).ReadsAs q ∧ Spells q (Decimal.magnitudeText digits e) := by
  have hnormal := Binary.normal_ofDecimal hne
  have hshortest := Binary.readsAs_shortest hnormal
  have hpos : 0 < (Binary.ofDecimal digits e).shortest.1 := by
    refine Nat.pos_of_ne_zero fun hzero => ?_
    have hq := hshortest.pos hnormal
    rw [hzero] at hq
    simp at hq
  obtain ⟨hstrip, hvalue⟩ := strip_spec hpos (Binary.ofDecimal digits e).shortest.2
  refine ⟨_, hshortest, ?_⟩
  rw [← hvalue]
  unfold Decimal.magnitudeText
  dsimp only
  generalize Decimal.strip (Binary.ofDecimal digits e).shortest.1
    (Binary.ofDecimal digits e).shortest.2 = shown at hstrip ⊢
  rw [if_neg hstrip.ne']
  split
  · have hspells := spells_positional hstrip ((toString shown.1).toList.length + shown.2)
    rwa [add_sub_cancel_left] at hspells
  · have hspells := spells_scientific hstrip ((toString shown.1).toList.length + shown.2 - 1)
    rwa [sub_add_cancel, add_sub_cancel_left] at hspells

theorem magnitudeText_of_zero {digits : ℕ} {e : ℤ}
    (h : (Binary.ofDecimal digits e).mantissa = 0) :
    Decimal.magnitudeText digits e = ['0', '.', '0'] := by
  have hstrip : Decimal.strip 0 0 = (0, 0) := by rw [Decimal.strip, dif_neg (by simp)]
  rw [Decimal.magnitudeText, Binary.shortest, if_pos h, hstrip]
  rfl

/-- The text of a number is read as digits of the same number. -/
theorem numeralText_magnitudeText {digits : ℕ} {e : ℤ}
    (hfits : (Binary.ofDecimal digits e).overflows = false) (negative : Bool) {longest : ℕ}
    (hlength : (Decimal.magnitudeText digits e).length + negative.toNat ≤ longest) :
    ∃ digits' e', (Binary.ofDecimal digits' e').toRat = (Binary.ofDecimal digits e).toRat ∧
      Decimal.magnitudeText digits' e' = Decimal.magnitudeText digits e ∧
      NumeralText longest negative (.float (.finite negative digits' e'))
        (Decimal.magnitudeText digits e) := by
  by_cases hzero : (Binary.ofDecimal digits e).mantissa = 0
  · have htext := magnitudeText_of_zero hzero
    rw [htext] at hlength
    simp only [List.length_cons, List.length_nil] at hlength
    have hnumeral : NumeralText longest negative _ (['0'] ++ (['.', '0'] ++ [])) :=
      .of ⟨List.cons_ne_nil _ _, by simp, Or.inl rfl⟩ (by rw [List.length_singleton]; omega)
        (.present (List.cons_ne_nil '0' []) (by simp)) .absent
    rw [htext]
    refine ⟨0, 0, ?_, magnitudeText_of_zero rfl, hnumeral⟩
    rw [Binary.toRat, Binary.toRat, hzero]
    simp [Binary.ofDecimal, Binary.ofFraction]
  · obtain ⟨q, hq, hspells⟩ := spells_magnitudeText hzero
    obtain ⟨digits', e', hsame, hnumeral⟩ := numeralText_of_spells
      (Binary.normal_ofDecimal hzero) hfits hq hspells negative hlength
    refine ⟨digits', e', by rw [hsame], ?_, hnumeral⟩
    rw [Decimal.magnitudeText, hsame]
    rfl

/-! ## Whole numbers and strings -/

theorem toList_toString_int (n : ℤ) :
    (toString n).toList = minus (n < 0) ++ (toString n.natAbs).toList := by
  cases n with
  | ofNat m => rfl
  | negSucc m =>
    have hneg : decide (Int.negSucc m < 0) = true := decide_eq_true (Int.negSucc_lt_zero m)
    show ("-" ++ toString (m + 1)).toList = _
    rw [String.toList_append, hneg]
    rfl

theorem numeralText_int (n : ℤ) {longest : ℕ}
    (hlength : (toString n.natAbs).toList.length + (decide (n < 0)).toNat ≤ longest) :
    NumeralText longest (n < 0) (.int n) (toString n.natAbs).toList := by
  have htext : NumeralText longest (n < 0) _ ((toString n.natAbs).toList ++ ([] ++ [])) :=
    .of (wholeText_toString n.natAbs) hlength .absent .absent
  have hvalue : numeralValue (n < 0) (toString n.natAbs).toList [] none = .int n := by
    rw [numeralValue, digitsValue_toString]
    refine congrArg Json.int ?_
    by_cases hneg : n < 0
    · rw [if_pos (decide_eq_true hneg)]
      omega
    · rw [if_neg (by simpa using hneg)]
      omega
  rw [hvalue, List.append_nil, List.append_nil] at htext
  exact htext

/-! ## Values -/

mutual
/-- All fractions in the value fit into 64-bit words. -/
def fits : Json → Bool
  | .float x => x.fits
  | .array vs => itemsFit vs
  | .object ms => membersFit ms
  | _ => true

def itemsFit : List Json → Bool
  | [] => true
  | v :: vs => v.fits && itemsFit vs

def membersFit : List (String × Json) → Bool
  | [] => true
  | (_, v) :: ms => v.fits && membersFit ms
end

theorem toList_text (negative : Bool) (digits : ℕ) (e : ℤ) :
    (Decimal.finite negative digits e).text.toList =
      minus negative ++ Decimal.magnitudeText digits e := by
  rw [Decimal.text, Decimal.signed, String.toList_ofList]
  cases negative <;> rfl

theorem length_minus (negative : Bool) : (minus negative).length = negative.toNat := by
  cases negative <;> rfl

/-- The text of a decimal spells the same number. -/
theorem textOf_float {x : Decimal} (hfits : x.fits = true) {longest : ℕ} (depth : ℕ)
    (hlength : (decimalText x).toList.length ≤ longest) :
    ∃ x', Decimal.Same x' x ∧ TextOf longest depth (.float x') (decimalText x).toList := by
  cases x with
  | finite negative digits e =>
    have hoverflows : (Binary.ofDecimal digits e).overflows = false := by
      simpa [Decimal.fits] using hfits
    have htext : decimalText (.finite negative digits e) =
        (Decimal.finite negative digits e).text :=
      rfl
    rw [htext, toList_text, List.length_append, length_minus] at hlength
    rw [Nat.add_comm] at hlength
    obtain ⟨digits', e', -, hsame, hnumeral⟩ :=
      numeralText_magnitudeText hoverflows negative hlength
    refine ⟨.finite negative digits' e', ?_, ?_⟩
    · show (Decimal.finite negative digits' e').text = _
      rw [Decimal.text, hsame, Decimal.text]
    · rw [htext, toList_text]
      exact .numeral hnumeral
  | infinite negative => cases negative <;> exact ⟨_, .refl _, .infinite _⟩
  | undefined => exact ⟨_, .refl _, .undefined⟩

mutual
/-- The line is a text of the value, with its fractions spelt by their shortest digits. -/
theorem textOf_spaced : ∀ v : Json, v.fits = true → ∀ longest depth : ℕ,
    v.spaced.length ≤ longest → v.spaced.length ≤ depth →
      ∃ v', Same v' v ∧ TextOf longest depth v' v.spaced
  | .null, _, _, _, _, _ => ⟨_, .null, .null⟩
  | .bool b, _, _, _, _, _ => ⟨_, .bool b, .bool b⟩
  | .int n, _, longest, depth, hlongest, _ => by
    rw [spaced, toList_toString_int, List.length_append, length_minus] at hlongest
    rw [spaced, toList_toString_int]
    exact ⟨_, .int n, .numeral (numeralText_int n (by omega))⟩
  | .float x, hfits, _, depth, hlongest, _ => by
    obtain ⟨x', hsame, htext⟩ := textOf_float hfits depth hlongest
    exact ⟨_, .float hsame, htext⟩
  | .string s, _, longest, depth, _, _ =>
    ⟨_, .string s, textOf_string charText_asciiEscape longest depth s⟩
  | .array [], _, longest, depth, _, hdepth => by
    have hpos : 1 ≤ depth := le_trans (by decide) hdepth
    obtain ⟨depth, rfl⟩ := Nat.exists_eq_add_of_le' hpos
    exact ⟨_, .array .nil, .emptyArray gap_nil⟩
  | .array (v :: vs), hfits, longest, depth, hlongest, hdepth => by
    rw [spaced, List.length_append, List.length_cons] at hlongest hdepth
    obtain ⟨depth, rfl⟩ := Nat.exists_eq_add_of_le' (show 1 ≤ depth by omega)
    obtain ⟨vs', hsame, htext⟩ :=
      itemsText_spaced (v :: vs) hfits (List.cons_ne_nil _ _) longest depth [] gap_nil
        (by omega) (by omega)
    exact ⟨_, .array hsame, .array htext⟩
  | .object [], _, longest, depth, _, hdepth => by
    have hpos : 1 ≤ depth := le_trans (by decide) hdepth
    obtain ⟨depth, rfl⟩ := Nat.exists_eq_add_of_le' hpos
    exact ⟨_, .object .nil, .emptyObject gap_nil⟩
  | .object (m :: ms), hfits, longest, depth, hlongest, hdepth => by
    rw [spaced, List.length_append, List.length_cons] at hlongest hdepth
    obtain ⟨depth, rfl⟩ := Nat.exists_eq_add_of_le' (show 1 ≤ depth by omega)
    obtain ⟨ms', hsame, htext⟩ :=
      membersText_spaced (m :: ms) hfits (List.cons_ne_nil _ _) longest depth [] gap_nil
        (by omega) (by omega)
    exact ⟨_, .object hsame, .object htext⟩

theorem itemsText_spaced : ∀ vs : List Json, itemsFit vs = true → vs ≠ [] →
    ∀ (longest depth : ℕ) (before : List Char), Gap before →
    (joined [',', ' '] (spacedItems vs)).length ≤ longest →
    (joined [',', ' '] (spacedItems vs)).length ≤ depth →
      ∃ vs', SameItems vs' vs ∧
        ItemsText longest depth vs' (before ++ joined [',', ' '] (spacedItems vs))
  | [], _, hne, _, _, _, _, _, _ => absurd rfl hne
  | [v], hfits, _, longest, depth, before, hbefore, hlongest, hdepth => by
    rw [itemsFit, Bool.and_eq_true] at hfits
    obtain ⟨v', hsame, htext⟩ := textOf_spaced v hfits.1 longest depth hlongest hdepth
    have hitems := ItemsText.last hbefore htext gap_nil
    rw [List.append_nil] at hitems
    exact ⟨_, .cons hsame .nil, hitems⟩
  | v :: w :: vs, hfits, _, longest, depth, before, hbefore, hlongest, hdepth => by
    rw [itemsFit, Bool.and_eq_true] at hfits
    have hmore : moreItems (w :: vs) =
        [',', ' '] ++ joined [',', ' '] (spacedItems (w :: vs)) := rfl
    rw [joined_spacedItems_cons, hmore, List.length_append, List.length_append] at hlongest hdepth
    obtain ⟨v', hsame, htext⟩ := textOf_spaced v hfits.1 longest depth (by omega) (by omega)
    obtain ⟨vs', hsame', htext'⟩ :=
      itemsText_spaced (w :: vs) hfits.2 (List.cons_ne_nil _ _) longest depth [' '] gap_blank
        (by omega) (by omega)
    rw [joined_spacedItems_cons]
    exact ⟨_, .cons hsame hsame', .cons hbefore htext gap_nil htext'⟩

theorem membersText_spaced : ∀ ms : List (String × Json), membersFit ms = true → ms ≠ [] →
    ∀ (longest depth : ℕ) (before : List Char), Gap before →
    (joined [',', ' '] (spacedMembers ms)).length ≤ longest →
    (joined [',', ' '] (spacedMembers ms)).length ≤ depth →
      ∃ ms', SameMembers ms' ms ∧
        MembersText longest depth ms' (before ++ joined [',', ' '] (spacedMembers ms))
  | [], _, hne, _, _, _, _, _, _ => absurd rfl hne
  | [(name, v)], hfits, _, longest, depth, before, hbefore, hlongest, hdepth => by
    rw [membersFit, Bool.and_eq_true] at hfits
    rw [joined_spacedMembers_cons, moreMembers, List.append_nil, List.length_append,
      List.length_cons, List.length_cons] at hlongest hdepth
    obtain ⟨v', hsame, htext⟩ := textOf_spaced v hfits.1 longest depth (by omega) (by omega)
    have hmembers := membersText_singleton charText_asciiEscape hbefore gap_blank name htext
    refine ⟨_, .cons name hsame .nil, ?_⟩
    rw [joined_spacedMembers_cons, moreMembers]
    simpa using hmembers
  | (name, v) :: m :: ms, hfits, _, longest, depth, before, hbefore, hlongest, hdepth => by
    rw [membersFit, Bool.and_eq_true] at hfits
    have hmore : moreMembers (m :: ms) =
        [',', ' '] ++ joined [',', ' '] (spacedMembers (m :: ms)) := rfl
    rw [joined_spacedMembers_cons, hmore, List.length_append, List.length_cons, List.length_cons,
      List.length_append, List.length_append] at hlongest hdepth
    obtain ⟨w, hsame, htext⟩ := textOf_spaced v hfits.1 longest depth (by omega) (by omega)
    obtain ⟨ms', hsame', htext'⟩ :=
      membersText_spaced (m :: ms) hfits.2 (List.cons_ne_nil _ _) longest depth [' '] gap_blank
        (by omega) (by omega)
    have hmembers := membersText_cons charText_asciiEscape hbefore gap_blank name htext htext'
    refine ⟨_, .cons name hsame hsame', ?_⟩
    rw [joined_spacedMembers_cons, hmore]
    simpa using hmembers
end

/-- A line is read as the value that it was written for. -/
theorem readAny?_toText {v : Json} (hfits : v.fits = true) :
    ∃ v', readAny? v.toText.toList = some v' ∧ Same v' v := by
  rw [toText, String.toList_ofList]
  obtain ⟨v', hsame, htext⟩ := textOf_spaced v hfits _ _ le_rfl le_rfl
  have hread := readWithin?_of_textOf gap_nil htext gap_nil
  rw [List.nil_append, List.append_nil] at hread
  exact ⟨v', hread, hsame⟩

/-! ## The same number -/

/-- The sign can be told from the digits after it. -/
theorem minus_append_inj {negative negative' : Bool} {d d' : Char} {cs cs' : List Char}
    (hd : d.isDigit = true) (hd' : d'.isDigit = true)
    (h : minus negative ++ d :: cs = minus negative' ++ d' :: cs') :
    negative = negative' ∧ d :: cs = d' :: cs' := by
  cases negative <;> cases negative'
  · exact ⟨rfl, h⟩
  · rw [(List.cons.inj h).1] at hd
    exact absurd hd (by decide)
  · rw [← (List.cons.inj h).1] at hd'
    exact absurd hd' (by decide)
  · exact ⟨rfl, (List.cons.inj h).2⟩

theorem toRat_eq_of_magnitudeText_eq {digits digits' : ℕ} {e e' : ℤ}
    (hfits : (Binary.ofDecimal digits e).overflows = false)
    (hfits' : (Binary.ofDecimal digits' e').overflows = false)
    (h : Decimal.magnitudeText digits e = Decimal.magnitudeText digits' e') :
    (Binary.ofDecimal digits e).toRat = (Binary.ofDecimal digits' e').toRat := by
  obtain ⟨n, k, hn, -, htext⟩ := numeralText_magnitudeText hfits false le_rfl
  obtain ⟨n', k', hn', -, htext'⟩ := numeralText_magnitudeText hfits' false le_rfl
  have hfollows : Follows [] := by rintro _ ⟨⟩
  have hread := htext.numberFrom_append hfollows
  rw [h, htext'.numberFrom_append hfollows] at hread
  simp only [Option.some.injEq, Prod.mk.injEq, Json.float.injEq, Decimal.finite.injEq, true_and,
    and_true] at hread
  rw [← hn, ← hn', hread.1, hread.2]

end Json

namespace Binary

theorem Normal.eq_of_toRat_eq {b b' : Binary} (hb : b.Normal) (hb' : b'.Normal)
    (h : b.toRat = b'.toRat) : b = b' := by
  have hself {b : Binary} (_ : b.Normal) : b.ReadsAs b.toRat := by
    refine readsAs_of_near ?_
    rw [sub_self, abs_zero]
    exact mul_pos b.below_pos (by positivity)
  obtain ⟨hfraction, hden⟩ := fraction_eq b
  have hread := ofFraction_of_readsAs hb hden (hfraction ▸ hself hb)
  have hread' := ofFraction_of_readsAs hb' hden (hfraction ▸ h ▸ hself hb')
  exact hread.symm.trans hread'

theorem mantissa_eq_zero_iff {b : Binary} : b.mantissa = 0 ↔ b.toRat = 0 := by
  have hunit : (2 : ℚ) ^ b.exponent ≠ 0 := by positivity
  rw [toRat, mul_eq_zero, or_iff_left hunit, Nat.cast_eq_zero]

end Binary

namespace Decimal

/-- Two fractions are written alike exactly if they stand for the same 64-bit number. -/
theorem same_finite_iff {negative negative' : Bool} {digits digits' : ℕ} {e e' : ℤ}
    (hfits : (finite negative digits e).fits = true)
    (hfits' : (finite negative' digits' e').fits = true) :
    (finite negative digits e).Same (finite negative' digits' e') ↔ negative = negative' ∧
      (Binary.ofDecimal digits e).toRat = (Binary.ofDecimal digits' e').toRat := by
  have hoverflows : (Binary.ofDecimal digits e).overflows = false := by simpa [fits] using hfits
  have hoverflows' : (Binary.ofDecimal digits' e').overflows = false := by
    simpa [fits] using hfits'
  have htext : (finite negative digits e).Same (finite negative' digits' e') ↔
      negative = negative' ∧ magnitudeText digits e = magnitudeText digits' e' := by
    obtain ⟨_, _, -, -, hnumeral⟩ := Json.numeralText_magnitudeText hoverflows false le_rfl
    obtain ⟨_, _, -, -, hnumeral'⟩ := Json.numeralText_magnitudeText hoverflows' false le_rfl
    obtain ⟨d, cs, hcs, hd⟩ := hnumeral.exists_cons
    obtain ⟨d', cs', hcs', hd'⟩ := hnumeral'.exists_cons
    show (finite negative digits e).text = (finite negative' digits' e').text ↔ _
    rw [← String.toList_inj, Json.toList_text, Json.toList_text, hcs, hcs']
    exact ⟨Json.minus_append_inj hd hd', fun ⟨hsign, hmagnitude⟩ => by rw [hsign, hmagnitude]⟩
  rw [htext, and_congr_right_iff]
  rintro rfl
  refine ⟨Json.toRat_eq_of_magnitudeText_eq hoverflows hoverflows', fun h => ?_⟩
  by_cases hzero : (Binary.ofDecimal digits e).mantissa = 0
  · have hzero' := Binary.mantissa_eq_zero_iff.mpr (h ▸ Binary.mantissa_eq_zero_iff.mp hzero)
    rw [Json.magnitudeText_of_zero hzero, Json.magnitudeText_of_zero hzero']
  · have hzero' := fun h' => hzero (Binary.mantissa_eq_zero_iff.mpr
      (h ▸ Binary.mantissa_eq_zero_iff.mp h'))
    have heq := (Binary.normal_ofDecimal hzero).eq_of_toRat_eq (Binary.normal_ofDecimal hzero') h
    rw [magnitudeText, heq, magnitudeText]

end Decimal

end WebKeys
