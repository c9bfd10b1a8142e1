import WebKeys.Bytes.Base64
import WebKeys.Proofs.Outcome

/-!
# Base 64 is read as written

Writing turns bytes into groups of six bits (`sextets`) and these into characters. Reading undoes
the second step character by character (`mapM_value?_map_char`) and the first by `regroup`
(`regroup_sextets`), so both the padded text and the one without padding give the bytes back. What
is read of any text is what stands before its padding, if that padding fits
(`decode_append_eq_ok_iff`).
-/

namespace WebKeys.Base64

/-! ## Characters -/

theorem value?_char (a : Alphabet) {n : Nat} (h : n < 64) : a.value? (a.char n) = some n := by
  revert n
  cases a <;> decide

theorem char_ne_pad (a : Alphabet) {n : Nat} (h : n < 64) : a.char n ≠ '=' := by
  revert n
  cases a <;> decide

theorem between_iff {c d e : Char} : d ≤ c ∧ c ≤ e ↔ d.toNat ≤ c.toNat ∧ c.toNat ≤ e.toNat := by
  rw [Char.le_def, Char.le_def, UInt32.le_iff_toNat_le, UInt32.le_iff_toNat_le]
  rfl

theorem lt_128_of_value? {a : Alphabet} {c : Char} {n : Nat} (h : a.value? c = some n) :
    c.toNat < 128 := by
  unfold Alphabet.value? at h
  simp only [between_iff, Char.reduceToNat] at h
  split_ifs at h with hupper hlower hdigit hplus hslash hminus hline
  · omega
  · omega
  · omega
  · simp [hplus]
  · simp [hslash]
  · simp [hminus.2]
  · simp [hline.2]

/-! ## Groups of six bits -/

/-- The numbers of six bits that a byte string is written in. -/
def sextets : Bytes → List Nat
  | [] => []
  | [x] => [x.toNat / 4, x.toNat % 4 * 16]
  | [x, y] => [x.toNat / 4, x.toNat % 4 * 16 + y.toNat / 16, y.toNat % 16 * 4]
  | x :: y :: z :: rest =>
    x.toNat / 4 :: (x.toNat % 4 * 16 + y.toNat / 16) :: (y.toNat % 16 * 4 + z.toNat / 64)
      :: z.toNat % 64 :: sextets rest

theorem encode_eq_map (a : Alphabet) (bs : Bytes) : encode a bs = (sextets bs).map a.char := by
  fun_induction sextets bs with
  | case1 => rfl
  | case2 x => rfl
  | case3 x y => rfl
  | case4 x y z rest ih => simp [encode, ih]

theorem sextets_lt (bs : Bytes) : ∀ n ∈ sextets bs, n < 64 := by
  fun_induction sextets bs with
  | case1 => simp
  | case2 x =>
    have := x.toNat_lt
    simp only [List.mem_cons, List.not_mem_nil, or_false, forall_eq_or_imp, forall_eq]
    omega
  | case3 x y =>
    have := x.toNat_lt
    have := y.toNat_lt
    simp only [List.mem_cons, List.not_mem_nil, or_false, forall_eq_or_imp, forall_eq]
    omega
  | case4 x y z rest ih =>
    have := x.toNat_lt
    have := y.toNat_lt
    have := z.toNat_lt
    simp only [List.forall_mem_cons]
    refine ⟨by omega, by omega, by omega, by omega, ih⟩

/-- A last group has two or three characters, never one. -/
theorem length_sextets_mod (bs : Bytes) : (sextets bs).length % 4 ≠ 1 := by
  fun_induction sextets bs with
  | case1 => decide
  | case2 x => simp
  | case3 x y => simp
  | case4 x y z rest ih =>
    simp only [List.length_cons]
    omega

/-- A byte is put together from the bits that were taken out of it. -/
theorem ofNat_eq {n : Nat} {b : UInt8} (h : n = b.toNat) : UInt8.ofNat n = b := by
  rw [h, UInt8.ofNat_toNat]

/-- Cutting bytes into groups of six bits loses nothing. -/
theorem regroup_sextets (bs : Bytes) : regroup (sextets bs) = some bs := by
  fun_induction sextets bs with
  | case1 => rfl
  | case2 x =>
    rw [regroup, ofNat_eq (b := x) (by omega)]
  | case3 x y =>
    have := y.toNat_lt
    rw [regroup, ofNat_eq (b := x) (by omega), ofNat_eq (b := y) (by omega)]
  | case4 x y z rest ih =>
    have := y.toNat_lt
    have := z.toNat_lt
    rw [regroup, ih, Option.map_some, ofNat_eq (b := x) (by omega), ofNat_eq (b := y) (by omega),
      ofNat_eq (b := z) (by omega)]

theorem mapM_value?_map_char (a : Alphabet) {ns : List Nat} (h : ∀ n ∈ ns, n < 64) :
    (ns.map a.char).mapM a.value? = some ns := by
  induction ns with
  | nil => rfl
  | cons n ns ih =>
    rw [List.forall_mem_cons] at h
    rw [List.map_cons, List.mapM_cons, value?_char a h.1, ih h.2]
    rfl

/-! ## Whole texts -/

theorem mem_encode {a : Alphabet} {bs : Bytes} {c : Char} (h : c ∈ encode a bs) :
    ∃ n, n < 64 ∧ c = a.char n := by
  rw [encode_eq_map] at h
  obtain ⟨n, hn, rfl⟩ := List.mem_map.mp h
  exact ⟨n, sextets_lt bs n hn, rfl⟩

theorem encode_ne_nil {a : Alphabet} {bs : Bytes} (h : bs ≠ []) : encode a bs ≠ [] := by
  fun_cases encode a bs <;> simp_all

theorem paddingFits_missing {n : Nat} (h : n % 4 ≠ 1) :
    paddingFits n (missing n).length = true := by
  have hlen : (missing n).length = (4 - n % 4) % 4 := List.length_replicate
  have hcases : n % 4 = 0 ∨ n % 4 = 2 ∨ n % 4 = 3 := by omega
  rw [hlen, paddingFits]
  rcases hcases with h | h | h <;> simp [h]

theorem exists_value?_of_mapM {a : Alphabet} {cs : List Char} {ns : List Nat}
    (h : cs.mapM a.value? = some ns) {c : Char} (hc : c ∈ cs) : ∃ n, a.value? c = some n := by
  induction cs generalizing ns with
  | nil => cases hc
  | cons d cs ih =>
    rw [List.mapM_cons, Option.bind_eq_bind, Option.bind_eq_some_iff] at h
    obtain ⟨n, hn, h⟩ := h
    rw [Option.bind_eq_bind, Option.bind_eq_some_iff] at h
    obtain ⟨ns', hns, -⟩ := h
    rcases List.mem_cons.mp hc with rfl | hc
    · exact ⟨n, hn⟩
    · exact ih hns hc

/-- What is decoded before padding does not depend on it; the padding only has to fit the length. -/
theorem decode_append_eq_ok_iff {a : Alphabet} {cs : List Char} (hcs : '=' ∉ cs) {k : Nat}
    {bs : Bytes} : decode a (cs ++ List.replicate k '=') = .ok bs ↔
      (cs.mapM a.value?).bind regroup = some bs ∧ paddingFits cs.length k = true := by
  have hdata : ∀ c ∈ cs, decide (c ≠ '=') = true := by
    intro c hc
    apply decide_eq_true
    rintro rfl
    exact hcs hc
  have htake : (cs ++ List.replicate k '=').takeWhile (· ≠ '=') = cs := by
    rw [List.takeWhile_append_of_pos hdata]
    cases k <;> simp [List.replicate_succ]
  have hdrop : (cs ++ List.replicate k '=').dropWhile (· ≠ '=') = List.replicate k '=' := by
    rw [List.dropWhile_append_of_pos hdata]
    cases k <;> simp [List.replicate_succ]
  have hall : (List.replicate k '=').all (· = '=') = true := by simp
  unfold decode
  dsimp only
  rw [htake, hdrop, hall, List.length_replicate, Bool.true_and]
  cases hbits : (cs.mapM a.value?).bind regroup with
  | none => split_ifs <;> simp
  | some bytes =>
    have hascii : (cs ++ List.replicate k '=').any (128 ≤ ·.toNat) = false := by
      obtain ⟨ns, hns, -⟩ := Option.bind_eq_some_iff.mp hbits
      rw [List.any_eq_false]
      intro c hc
      rcases List.mem_append.mp hc with hc | hc
      · obtain ⟨n, hn⟩ := exists_value?_of_mapM hns hc
        have := lt_128_of_value? hn
        simpa using this
      · rw [List.eq_of_mem_replicate hc]
        decide
    rw [hascii, if_neg Bool.false_ne_true]
    cases paddingFits cs.length k <;> simp

/-- Padded text is read back as the bytes it was written for. -/
theorem decode_encodePadded (a : Alphabet) (bs : Bytes) :
    decode a (encodePadded a bs) = .ok bs := by
  have hpad : '=' ∉ encode a bs := by
    intro hmem
    obtain ⟨n, hn, heq⟩ := mem_encode hmem
    exact char_ne_pad a hn heq.symm
  apply (decode_append_eq_ok_iff hpad).mpr
  constructor
  · rw [encode_eq_map, mapM_value?_map_char a (sextets_lt bs), Option.bind_some, regroup_sextets]
  · rw [← List.length_replicate (n := (4 - (encode a bs).length % 4) % 4) (a := '=')]
    apply paddingFits_missing
    rw [encode_eq_map, List.length_map]
    exact length_sextets_mod bs

theorem decodeUnpadded_encode (a : Alphabet) (bs : Bytes) :
    decodeUnpadded a (encode a bs) = .ok bs := decode_encodePadded a bs

end WebKeys.Base64
