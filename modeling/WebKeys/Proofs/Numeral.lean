import WebKeys.Text.Numeral
import WebKeys.Proofs.Outcome

/-!
# Decimal numerals are read as written

`decimal?` writes a number below ten to the power `longestNumeral`, and `integer?` reads the digits
of such a number as that number and takes no larger one (`integer?_toDigits`), although it would
take other spellings too. Whatever the spelling, what is read is no larger than what can be written
(`natAbs_lt_of_integer?`).
-/

namespace WebKeys.Text

attribute [local instance (2000)] instPowNat

theorem decimal?_eq_some {n : Nat} {s : String} :
    decimal? n = some s ↔ n < 10 ^ longestNumeral ∧ s = n.repr := by
  have hlen : n.repr.length ≤ longestNumeral ↔ n < 10 ^ longestNumeral :=
    Nat.length_repr_le_iff (by decide)
  unfold decimal?
  rw [Nat.toString_eq_repr, ← hlen]
  by_cases h : n.repr.length ≤ longestNumeral <;> simp [h, eq_comm]

/-! ## Single digits -/

theorem toNat_of_isDigit {c : Char} (h : c.isDigit) : 48 ≤ c.toNat ∧ c.toNat ≤ 57 := by
  simpa [Char.isDigit, UInt32.le_iff_toNat_le] using h

theorem isBlank_of_isDigit {c : Char} (h : c.isDigit) : isBlank c = false := by
  have := toNat_of_isDigit h
  unfold isBlank
  simp only [Bool.or_eq_false_iff, Bool.and_eq_false_iff, decide_eq_false_iff_not,
    beq_eq_false_iff_ne]
  omega

theorem digit?_of_isDigit {c : Char} (h : c.isDigit) : digit? c = some (c.toNat - 48) := by
  obtain ⟨hlow, hhigh⟩ := toNat_of_isDigit h
  have hzero : (decimalZeros.find? fun z => z ≤ c.toNat && c.toNat < z + 10) = some 48 := by
    rw [decimalZeros, List.find?_cons_of_pos]
    simp only [Bool.and_eq_true, decide_eq_true_eq]
    omega
  rw [digit?, hzero]
  rfl

/-! ## Runs of digits -/

theorem trimBlank_of_isDigit {cs : List Char} (h : ∀ c ∈ cs, c.isDigit) : trimBlank cs = cs := by
  have hdrop : ∀ cs : List Char, (∀ c ∈ cs, c.isDigit) → cs.dropWhile isBlank = cs := by
    intro cs h
    cases cs with
    | nil => rfl
    | cons c cs => rw [List.dropWhile_cons_of_neg (by simp [isBlank_of_isDigit (h c (by simp))])]
  rw [trimBlank, hdrop cs h, hdrop cs.reverse (by simpa using h), List.reverse_reverse]

theorem digits?_of_isDigit {cs : List Char} (hne : cs ≠ []) (h : ∀ c ∈ cs, c.isDigit) :
    digits? cs = some (cs.map (·.toNat - 48)) := by
  induction cs with
  | nil => exact absurd rfl hne
  | cons c cs ih =>
    rw [List.forall_mem_cons] at h
    cases cs with
    | nil => simp [digits?, digit?_of_isDigit h.1]
    | cons c' cs =>
      have hunder : c' ≠ '_' := by
        rintro rfl
        exact absurd (h.2 '_' (by simp)) (by decide)
      rw [digits?.eq_4 _ _ (by simp) fun rest heq => hunder (List.cons.inj heq).1,
        digit?_of_isDigit h.1, ih (by simp) h.2]
      rfl

theorem ofDigits_map (cs : List Char) :
    ofDigits (cs.map (·.toNat - 48)) = Nat.ofDigitChars 10 cs 0 := by
  rw [ofDigits, List.foldl_map, Nat.ofDigitChars_eq_foldl]
  rfl

theorem natural?_toDigits (n : Nat) :
    natural? (Nat.toDigits 10 n) = if n < 10 ^ longestNumeral then some n else none := by
  have hdigit : ∀ c ∈ Nat.toDigits 10 n, c.isDigit := fun c hc =>
    Nat.isDigit_of_mem_toDigits (by decide) (by decide) hc
  have hlen : (Nat.toDigits 10 n).length ≤ longestNumeral ↔ n < 10 ^ longestNumeral :=
    Nat.length_toDigits_le_iff (by decide) (by decide)
  rw [natural?, digits?_of_isDigit Nat.toDigits_ne_nil hdigit, Option.bind_some, List.length_map,
    ofDigits_map, Nat.ofDigitChars_ten_toDigits]
  simp only [hlen]

/-- The digits of a number are read back as it, up to the longest numeral. -/
theorem integer?_toDigits (n : Nat) :
    integer? (String.ofList (Nat.toDigits 10 n)) =
      if n < 10 ^ longestNumeral then some (n : Int) else none := by
  have hdigit : ∀ c ∈ Nat.toDigits 10 n, c.isDigit := fun c hc =>
    Nat.isDigit_of_mem_toDigits (by decide) (by decide) hc
  unfold integer?
  rw [String.toList_ofList, trimBlank_of_isDigit hdigit]
  split
  · next rest heq => exact absurd (hdigit '-' (by simp [heq])) (by decide)
  · next rest heq => exact absurd (hdigit '+' (by simp [heq])) (by decide)
  · rw [natural?_toDigits]
    split <;> rfl

/-! ## The size of what is read -/

theorem lt_of_digit? {c : Char} {d : Nat} (h : digit? c = some d) : d < 10 := by
  unfold digit? at h
  obtain ⟨z, hz, rfl⟩ := Option.map_eq_some_iff.mp h
  have hrange := List.find?_some hz
  simp only [Bool.and_eq_true, decide_eq_true_eq] at hrange
  omega

theorem lt_of_mem_digits? {cs : List Char} {ds : List Nat} (h : digits? cs = some ds) :
    ∀ d ∈ ds, d < 10 := by
  have hcons {c : Char} {rest : List Char} {ds : List Nat}
      (ih : ∀ {ds}, digits? rest = some ds → ∀ d ∈ ds, d < 10)
      (h : (digit? c).bind (fun d => (digits? rest).map (d :: ·)) = some ds) :
      ∀ d ∈ ds, d < 10 := by
    obtain ⟨d, hd, h⟩ := Option.bind_eq_some_iff.mp h
    obtain ⟨ds, hds, rfl⟩ := Option.map_eq_some_iff.mp h
    rw [List.forall_mem_cons]
    exact ⟨lt_of_digit? hd, ih hds⟩
  fun_induction digits? cs generalizing ds with
  | case1 => cases h
  | case2 c =>
    obtain ⟨d, hd, rfl⟩ := Option.map_eq_some_iff.mp h
    simpa using lt_of_digit? hd
  | case3 c rest ih => exact hcons ih h
  | case4 c rest hlast hunder ih => exact hcons ih h

theorem ofDigits_lt {ds : List Nat} (h : ∀ d ∈ ds, d < 10) : ofDigits ds < 10 ^ ds.length := by
  induction ds using List.reverseRecOn with
  | nil => decide
  | append_singleton ds d ih =>
    have hd : d < 10 := h d (by simp)
    have hds := ih fun d' hd' => h d' (by simp [hd'])
    have hlast : ofDigits (ds ++ [d]) = 10 * ofDigits ds + d := by simp [ofDigits]
    rw [hlast, List.length_append, List.length_singleton, Nat.pow_succ]
    omega

theorem lt_of_natural? {cs : List Char} {n : Nat} (h : natural? cs = some n) :
    n < 10 ^ longestNumeral := by
  obtain ⟨ds, hds, h⟩ := Option.bind_eq_some_iff.mp h
  split at h
  · next hlen =>
    cases h
    exact Nat.lt_of_lt_of_le (ofDigits_lt (lt_of_mem_digits? hds))
      (Nat.pow_le_pow_right (by decide) hlen)
  · cases h

theorem natAbs_lt_of_integer? {s : String} {n : Int} (h : integer? s = some n) :
    n.natAbs < 10 ^ longestNumeral := by
  unfold integer? at h
  split at h <;> obtain ⟨m, hm, rfl⟩ := Option.map_eq_some_iff.mp h
  · obtain ⟨k, hk, ⟨⟩⟩ := Option.bind_eq_some_iff.mp hm
    rw [Int.natAbs_neg]
    exact lt_of_natural? hk
  · exact lt_of_natural? hm
  · exact lt_of_natural? hm

end WebKeys.Text
