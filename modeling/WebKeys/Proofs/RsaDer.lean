import WebKeys.Layout.RsaDer
import WebKeys.Proofs.Bytes
import WebKeys.Proofs.KeyInformation

/-!
# RSA keys in DER

* `ofDer_eq_ok_iff` lists what is read: the information of two positive numbers that the primitives
  load, with absent or null parameters.
* `ofDer_toDer`: such numbers are written as DER and read back, as long as the modulus is short
  enough for the length of the whole to be read.
-/

namespace WebKeys.RsaKey

open Outcome PublicKeyInfo Der

/-! ## Integers -/

/-- The value of an integer element. -/
def integerValue (n : Nat) : Bytes :=
  let bs := Bytes.ofNat (Bytes.width n) n
  if 128 ≤ bs.headD 0 then 0 :: bs else bs

theorem integerElement_eq (n : Nat) : integerElement n = encode integerTag (integerValue n) := rfl

theorem length_integerValue_le (n : Nat) : (integerValue n).length ≤ Bytes.width n + 1 := by
  have hlen := Bytes.length_ofNat (Bytes.width n) n
  unfold integerValue
  dsimp only
  split
  · rw [List.length_cons, hlen]
  · omega

/-- A positive number in the fewest bytes, a zero byte before it if it starts with a set bit, is
what the reader takes for the number. -/
theorem positive?_integerValue {n : Nat} (h : 0 < n) :
    positive? ⟨integerTag, integerValue n⟩ = some n := by
  have hnum : Bytes.toNat (Bytes.ofNat (Bytes.width n) n) = n :=
    Bytes.toNat_ofNat_of_lt (Bytes.lt_pow_width n)
  unfold positive? integerValue
  rw [if_neg (not_not.mpr rfl)]
  dsimp only
  cases hbs : Bytes.ofNat (Bytes.width n) n with
  | nil =>
    rw [hbs] at hnum
    exact absurd hnum.symm (Nat.ne_of_gt h)
  | cons b rest =>
    have hb : b ≠ 0 := Bytes.head_ofNat_width hbs
    rw [hbs] at hnum
    rw [List.headD_cons]
    by_cases hlarge : 128 ≤ b
    · simp [hlarge, hnum]
    · have hsmall : b < 128 := by simpa using hlarge
      rw [if_neg hlarge]
      split
      · next heq => cases heq
      · next heq => exact absurd (List.cons.inj heq).1 hb
      · next heq => exact absurd (List.cons.inj heq).1 hb
      · next heq =>
        cases heq
        rw [if_pos hsmall, hnum]

/-- A number that starts with this byte in its fewest bytes. -/
theorem integerValue_toNat {b : UInt8} (rest : Bytes) (hb : b ≠ 0) :
    integerValue (Bytes.toNat (b :: rest)) =
      if 128 ≤ b then 0 :: b :: rest else b :: rest := by
  have hbytes := Bytes.ofNat_toNat (b :: rest)
  rw [List.length_cons] at hbytes
  unfold integerValue
  dsimp only
  rw [Bytes.width_toNat rest hb, hbytes]
  rfl

/-- The first byte decides whether a zero byte must stand before the number. -/
theorem value_of_positive? {element : Element} {n : Nat} (h : positive? element = some n) :
    element.tag = integerTag ∧ ∃ b rest, b ≠ 0 ∧ n = Bytes.toNat (b :: rest) ∧
      element.value = if 128 ≤ b then 0 :: b :: rest else b :: rest := by
  unfold positive? at h
  split at h
  · cases h
  · next htag =>
    refine ⟨not_not.mp htag, ?_⟩
    split at h
    · cases h
    · cases h
    · next b rest hvalue =>
      split at h
      · next hlarge =>
        cases h
        refine ⟨b, rest, ?_, rfl, by rw [hvalue, if_pos hlarge]⟩
        rintro rfl
        exact absurd hlarge (by decide)
      · cases h
    · next b rest hzero hmore hvalue =>
      split at h
      · next hsmall =>
        cases h
        refine ⟨b, rest, ?_, rfl, by rw [hvalue, if_neg (UInt8.not_le.mpr hsmall)]⟩
        -- A zero byte in front is caught by one of the branches before.
        rintro rfl
        cases rest with
        | nil => exact hzero rfl rfl
        | cons b' rest' => exact hmore b' rest' rfl rfl
      · cases h

/-- A number is read from its own integer and from no other. -/
theorem positive?_eq_some_iff {element : Element} {n : Nat} :
    positive? element = some n ↔ 0 < n ∧ element = ⟨integerTag, integerValue n⟩ := by
  constructor
  · intro h
    obtain ⟨htag, b, rest, hb, rfl, hvalue⟩ := value_of_positive? h
    obtain ⟨tag, value⟩ := element
    obtain rfl : tag = integerTag := htag
    exact ⟨Bytes.toNat_pos rest hb, by rw [integerValue_toNat rest hb, ← hvalue]⟩
  · rintro ⟨hpos, rfl⟩
    exact positive?_integerValue hpos

/-- A positive integer is read exactly from its minimal encoding. -/
theorem positiveFrom?_eq_some_iff {bs rest : Bytes} {n : Nat} :
    positiveFrom? bs = some (n, rest) ↔
      0 < n ∧ (integerValue n).length < lengthBound ∧ bs = integerElement n ++ rest := by
  constructor
  · intro h
    obtain ⟨⟨element, rest'⟩, hread, hnumber⟩ := Option.bind_eq_some_iff.mp h
    obtain ⟨n', hn, hdone⟩ := Option.bind_eq_some_iff.mp hnumber
    cases hdone
    obtain ⟨hpos, rfl⟩ := positive?_eq_some_iff.mp hn
    obtain ⟨hreadable, rfl⟩ := read_eq_ok_iff.mp (toOption_eq_some.mp hread)
    exact ⟨hpos, hreadable.2, rfl⟩
  · rintro ⟨hpos, hlen, rfl⟩
    have hreadable : Readable integerTag (integerValue n) := ⟨by decide, hlen⟩
    rw [positiveFrom?, integerElement_eq, read_encode rest hreadable]
    simp [Except.toOption, positive?_integerValue hpos]

theorem length_integerElement_le {n : Nat} (h : Bytes.width n + 1 < lengthBound) :
    (integerElement n).length ≤ Bytes.width n + 7 := by
  have hvalue := length_integerValue_le n
  have hlen := length_encode_le integerTag (integerValue n) (by omega)
  rw [integerElement_eq]
  omega

/-! ## Both numbers -/

/-- The key inside the bit string. -/
def numbersElement (n e : Nat) : Bytes :=
  encode sequenceTag (integerElement n ++ integerElement e)

/-- Two numbers are read from their sequence and from nothing else. -/
theorem numbersFrom?_eq_some_iff {bs : Bytes} {n e : Nat} :
    numbersFrom? bs = some (n, e) ↔ 0 < n ∧ 0 < e ∧
      (integerElement n ++ integerElement e).length < lengthBound ∧ bs = numbersElement n e := by
  constructor
  · intro h
    obtain ⟨⟨body, after⟩, hexpect, hnumbers⟩ := Option.bind_eq_some_iff.mp h
    obtain ⟨⟨n', rest⟩, hmodulus, hsecond⟩ := Option.bind_eq_some_iff.mp hnumbers
    obtain ⟨⟨e', rest'⟩, hexponent, hdone⟩ := Option.bind_eq_some_iff.mp hsecond
    dsimp only at hmodulus hexponent hdone
    split at hdone
    · next hempty =>
      cases hdone
      obtain ⟨rfl, rfl⟩ : after = [] ∧ rest' = [] := by simpa using hempty
      obtain ⟨hreadable, rfl⟩ := expect_eq_ok_iff.mp (toOption_eq_some.mp hexpect)
      obtain ⟨hn, -, rfl⟩ := positiveFrom?_eq_some_iff.mp hmodulus
      obtain ⟨he, -, rfl⟩ := positiveFrom?_eq_some_iff.mp hexponent
      rw [List.append_nil] at hreadable
      rw [List.append_nil, List.append_nil]
      exact ⟨hn, he, hreadable.2, rfl⟩
    · cases hdone
  · rintro ⟨hn, he, hlen, rfl⟩
    have hn' := length_le_length_encode integerTag (integerValue n)
    have he' := length_le_length_encode integerTag (integerValue e)
    have hsum := hlen
    rw [List.length_append, integerElement_eq, integerElement_eq] at hsum
    have hexpect := expect_encode [] (readable_sequence hlen)
    have hmodulus : positiveFrom? (integerElement n ++ integerElement e) =
        some (n, integerElement e) := positiveFrom?_eq_some_iff.mpr ⟨hn, by omega, rfl⟩
    have hexponent : positiveFrom? (integerElement e) = some (e, []) :=
      positiveFrom?_eq_some_iff.mpr ⟨he, by omega, (List.append_nil _).symm⟩
    rw [List.append_nil] at hexpect
    rw [numbersFrom?, numbersElement, hexpect]
    simp [Except.toOption, hmodulus, hexponent]

/-! ## The whole -/

/-- The algorithm identifier of RSA keys. -/
def rsaIdentifier : Bytes := [0x2A, 0x86, 0x48, 0x86, 0xF7, 0x0D, 0x01, 0x01, 0x01]

theorem decode_rsaIdentifier : ObjectId.decode rsaIdentifier = .ok algorithm := rfl

theorem informationOf_eq_framed (identifier : Bytes) (n e : Nat) :
    informationOf identifier n e =
      framed (encode objectIdTag identifier ++ nullElement) (0 :: numbersElement n e) := rfl

theorem publicNumbersFit_iff {n e : Int} :
    publicNumbersFit n e = true ↔ 3 ≤ n ∧ 3 ≤ e ∧ e < n ∧ e % 2 = 1 := by
  simp [publicNumbersFit, and_assoc]

/-- The parameters may be absent or null. -/
theorem plainParameters_iff {bs oid rest : Bytes} {info : PublicKeyInfo}
    (h : StrictDer bs info oid rest) :
    plainParameters bs = true ↔ rest = [] ∨ rest = nullElement := by
  have hframes := frames_eq_ok_iff.mpr ⟨h.framable, h.eq_framed⟩
  rw [plainParameters, hframes]
  dsimp only
  rw [read_encode rest (readable_objectId h.length_oid)]
  simp

theorem parametersOf_null : ParametersOf nullElement none :=
  @ParametersOf.other nullTag [] ⟨by decide, by decide⟩ (by decide)

theorem eq_none_of_plain {rest : Bytes} {parameters : Option String}
    (h : ParametersOf rest parameters) (hrest : rest = [] ∨ rest = nullElement) :
    parameters = none := by
  cases h with
  | absent => rfl
  | objectId h hoid =>
    rcases hrest with hnil | hnull
    · cases hnil
    · exact absurd (List.cons.inj hnull).1 (by decide)
  | other h htag => rfl

/-- An RSA key is read from the information of its two numbers, with either spelling of its
parameters, if they are numbers that the primitives load. -/
theorem ofDer_eq_ok_iff {takes : LoadCheck} {bs : Bytes} {k : RsaKey} :
    ofDer bs takes = .ok k ↔ ∃ (n e : Nat) (rest : Bytes),
      StrictDer bs ⟨algorithm, none, numbersElement n e⟩ rsaIdentifier rest ∧
      (rest = [] ∨ rest = nullElement) ∧ (0 < n ∧ 0 < e) ∧ takes n e = true ∧
      k = { n := n, e := e } := by
  constructor
  · intro h
    obtain ⟨info, hinfo, hkey⟩ := bind_eq_ok.mp h
    obtain ⟨halgorithm, hkey⟩ := guard_eq_ok.mp hkey
    obtain ⟨oid, rest, hstrict⟩ := parse_eq_ok_iff.mp (mapError_eq_ok.mp hinfo)
    split at hkey
    · next n e hnumbers =>
      split at hkey
      · next hchecks =>
        cases hkey
        obtain ⟨hplain, htakes⟩ := Bool.and_eq_true_iff.mp hchecks
        have hrest := (plainParameters_iff hstrict).mp hplain
        obtain ⟨hn, he, -, hpublicKey⟩ := numbersFrom?_eq_some_iff.mp hnumbers
        have hnone := eq_none_of_plain hstrict.parameters hrest
        obtain ⟨name, parameters, publicKey⟩ := info
        obtain rfl : name = algorithm := not_not.mp halgorithm
        obtain rfl : parameters = none := hnone
        obtain rfl : publicKey = numbersElement n e := hpublicKey
        obtain rfl := ObjectId.decode_injective hstrict.algorithm decode_rsaIdentifier
        exact ⟨n, e, rest, hstrict, hrest, ⟨hn, he⟩, htakes, rfl⟩
      · cases hkey
    · cases hkey
  · rintro ⟨n, e, rest, hstrict, hrest, ⟨hn, he⟩, htakes, rfl⟩
    have hbody : (integerElement n ++ integerElement e).length < lengthBound := by
      have hbits : (0 :: numbersElement n e).length < lengthBound := hstrict.framable.bits
      have hlen := length_le_length_encode sequenceTag (integerElement n ++ integerElement e)
      rw [List.length_cons, numbersElement] at hbits
      omega
    have hnumbers : numbersFrom? (numbersElement n e) = some (n, e) :=
      numbersFrom?_eq_some_iff.mpr ⟨hn, he, hbody, rfl⟩
    rw [ofDer, parse_eq_ok_iff.mpr ⟨_, _, hstrict⟩]
    simp [Except.mapError, hnumbers, (plainParameters_iff hstrict).mpr hrest, htakes]

theorem publicPart_accepted {k : RsaKey} (h : publicNumbersFit k.n k.e = true) :
    k.publicPart.accepted = .ok k.publicPart := by
  obtain ⟨hn, he, -⟩ := publicNumbersFit_iff.mp h
  have hnonneg : ¬(k.n < 0 ∨ k.e < 0) := by omega
  rw [accepted, publicPart]
  dsimp only
  rw [if_neg hnonneg, if_pos h, publicPart]

theorem toDer_eq_ok {k : RsaKey} (h : publicNumbersFit k.n k.e = true) :
    k.toDer = .ok (informationOf rsaIdentifier k.n.toNat k.e.toNat) := by
  rw [toDer, publicPart_accepted h, ok_bind, ObjectId.encode_of_decode decode_rsaIdentifier]
  rfl

theorem publicPart_refused {k : RsaKey} (hn : 0 ≤ k.n) (he : 0 ≤ k.e)
    (h : publicNumbersFit k.n k.e = false) : k.publicPart.accepted = refuse := by
  have hnonneg : ¬(k.n < 0 ∨ k.e < 0) := by omega
  rw [accepted, publicPart]
  dsimp only
  rw [if_neg hnonneg, if_neg (Bool.eq_false_iff.mp h)]

theorem toDer_refused {k : RsaKey} (hn : 0 ≤ k.n) (he : 0 ≤ k.e)
    (h : publicNumbersFit k.n k.e = false) : k.toDer = refuse := by
  rw [toDer, publicPart_refused hn he h, refuse, error_bind]
  rfl

/-- Numbers of fewer than 2 ^ 30 bytes make an information whose length can be read. -/
theorem framable_information {n e : Nat} (hn : Bytes.width n < 2 ^ 30)
    (he : Bytes.width e ≤ Bytes.width n) :
    Framable (encode objectIdTag rsaIdentifier ++ nullElement) (0 :: numbersElement n e) := by
  have hbound : lengthBound = 2 ^ 32 := by decide
  have hid : (encode objectIdTag rsaIdentifier ++ nullElement).length = 13 := by decide
  have hmodulus := length_integerElement_le (n := n) (by omega)
  have hexponent := length_integerElement_le (n := e) (by omega)
  have hparts : (integerElement n ++ integerElement e).length ≤ 2 * Bytes.width n + 14 := by
    rw [List.length_append]
    omega
  have hbody := length_encode_le sequenceTag (integerElement n ++ integerElement e) (by omega)
  refine framable_of_length ?_
  rw [hid, List.length_cons, numbersElement]
  omega

theorem ofDer_informationOf {takes : LoadCheck} {n e : Nat} (he : 0 < e) (hlt : e < n)
    (htakes : takes n e = true) (hsize : Bytes.width n < 2 ^ 30) :
    ofDer (informationOf rsaIdentifier n e) takes = .ok { n := n, e := e } := by
  have hwidth : Bytes.width e ≤ Bytes.width n :=
    Bytes.width_le (Nat.lt_trans hlt (Bytes.lt_pow_width n))
  exact ofDer_eq_ok_iff.mpr ⟨n, e, nullElement, ⟨framable_information hsize hwidth, rfl,
    decode_rsaIdentifier, parametersOf_null⟩, Or.inr rfl, ⟨Nat.lt_trans he hlt, he⟩, htakes, rfl⟩

theorem ofDer_toDer {k : RsaKey} (h : publicNumbersFit k.n k.e = true)
    (hsize : Bytes.width k.n.toNat < 2 ^ 30) :
    ∃ bs, k.toDer = .ok bs ∧ ofDer bs = .ok k.publicPart := by
  obtain ⟨hn, he, hlt, -⟩ := publicNumbersFit_iff.mp h
  have hmodulus : (k.n.toNat : Int) = k.n := Int.toNat_of_nonneg (by omega)
  have hexponent : (k.e.toNat : Int) = k.e := Int.toNat_of_nonneg (by omega)
  refine ⟨_, toDer_eq_ok h, ?_⟩
  rw [ofDer_informationOf (by omega) (by omega) (by rwa [hmodulus, hexponent]) hsize, hmodulus,
    hexponent, publicPart]

end WebKeys.RsaKey
