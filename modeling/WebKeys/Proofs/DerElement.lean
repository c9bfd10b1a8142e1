import WebKeys.Der.Element
import WebKeys.Proofs.Bytes

/-!
# DER elements have one form

Reading takes exactly what writing produces: `read_eq_ok_iff` says that an element is read from the
front of a byte string if and only if the string starts with the element as it is written, the tag
takes one byte, and the length takes at most four.

The lengths carry the argument. A short length is its own byte (`lengthFrom_lengthOctets`), and a
long one is taken only without leading zeros and from 128 up, which are just the octets that writing
chooses (`lengthFrom_eq_ok`).
-/

namespace WebKeys.Der

open Outcome

attribute [local instance (2000)] instPowNat

/-- The longest value whose length is read takes four bytes for it. -/
def lengthBound : Nat := 256 ^ 4

/-! ## Lengths -/

theorem width_le_four {n : Nat} (h : n < lengthBound) : Bytes.width n ≤ 4 := Bytes.width_le h

theorem longLength_ofNat {n : Nat} (rest : Bytes) (hlow : 128 ≤ n) (hhigh : n < lengthBound) :
    longLength (Bytes.width n) (Bytes.ofNat (Bytes.width n) n ++ rest) = .ok (n, rest) := by
  have hw := width_le_four hhigh
  have hlen := Bytes.length_ofNat (Bytes.width n) n
  have htake : (Bytes.ofNat (Bytes.width n) n ++ rest).take (Bytes.width n) =
      Bytes.ofNat (Bytes.width n) n := List.take_left' hlen
  have hdrop : (Bytes.ofNat (Bytes.width n) n ++ rest).drop (Bytes.width n) = rest :=
    List.drop_left' hlen
  have hhead : (Bytes.ofNat (Bytes.width n) n ++ rest).head? ≠ some 0 := by
    cases hbs : Bytes.ofNat (Bytes.width n) n with
    | nil =>
      have hn := Bytes.toNat_ofNat_of_lt (Bytes.lt_pow_width n)
      rw [hbs, Bytes.toNat_nil] at hn
      omega
    | cons b bs => simpa using Bytes.head_ofNat_width hbs
  have hfits : ¬(4 < Bytes.width n ∨
      (Bytes.ofNat (Bytes.width n) n ++ rest).length < Bytes.width n) := by
    rw [List.length_append, hlen]
    omega
  unfold longLength
  rw [if_neg hfits, if_neg hhead, htake, hdrop, Bytes.toNat_ofNat_of_lt (Bytes.lt_pow_width n)]
  exact if_neg (by omega)

/-- A length is read back from its octets. -/
theorem lengthFrom_lengthOctets {n : Nat} (rest : Bytes) (h : n < lengthBound) :
    ∃ first more, lengthOctets n = first :: more ∧
      lengthFrom first (more ++ rest) = .ok (n, rest) := by
  by_cases hn : n < 128
  · refine ⟨UInt8.ofNat n, [], by simp [lengthOctets, hn], ?_⟩
    have hnat : (UInt8.ofNat n).toNat = n := Bytes.toNat_byte (by omega)
    have hlt : UInt8.ofNat n < 128 := by
      rw [UInt8.lt_iff_toNat_lt, hnat]
      exact hn
    simp [lengthFrom, hlt, hnat]
  · have hw := width_le_four h
    have hpos : Bytes.width n ≠ 0 := by
      intro h0
      have := Bytes.lt_pow_width n
      rw [h0] at this
      omega
    refine ⟨UInt8.ofNat (128 + Bytes.width n), Bytes.ofNat (Bytes.width n) n, by
      simp [lengthOctets, hn], ?_⟩
    have hnat : (UInt8.ofNat (128 + Bytes.width n)).toNat = 128 + Bytes.width n :=
      Bytes.toNat_byte (by omega)
    have hlt : ¬UInt8.ofNat (128 + Bytes.width n) < 128 := by
      rw [UInt8.lt_iff_toNat_lt, hnat]
      exact Nat.not_lt.mpr (Nat.le_add_right 128 _)
    have hne : UInt8.ofNat (128 + Bytes.width n) ≠ 128 := by
      intro heq
      have := congrArg UInt8.toNat heq
      rw [hnat] at this
      exact hpos (Nat.add_left_cancel (k := 0) this)
    unfold lengthFrom
    rw [if_neg hlt, if_neg hne, hnat, Nat.add_sub_cancel_left]
    exact longLength_ofNat rest (by omega) h

theorem longLength_eq_ok {count n : Nat} {bs rest : Bytes}
    (h : longLength count bs = .ok (n, rest)) :
    128 ≤ n ∧ n < lengthBound ∧ count = Bytes.width n ∧ bs = Bytes.ofNat count n ++ rest := by
  unfold longLength at h
  split at h
  · cases h
  · next hfits =>
    split at h
    · cases h
    · next hhead =>
      dsimp only at h
      split at h
      · cases h
      · next hlow =>
        cases h
        have hlen : (bs.take count).length = count := by
          rw [List.length_take]
          omega
        have hlt := Bytes.toNat_lt (bs.take count)
        rw [hlen] at hlt
        refine ⟨by omega, Nat.lt_of_lt_of_le hlt (Nat.pow_le_pow_right (by decide) (by omega)),
          ?_, ?_⟩
        · cases hbs : bs.take count with
          | nil =>
            rw [hbs, Bytes.toNat_nil] at hlow
            omega
          | cons b tail =>
            have hb : b ≠ 0 := by
              rintro rfl
              have hsplit := List.take_append_drop count bs
              rw [hbs] at hsplit
              exact hhead (by rw [← hsplit]; rfl)
            rw [Bytes.width_toNat tail hb, ← hlen, hbs, List.length_cons]
        · have hbytes := Bytes.ofNat_toNat (bs.take count)
          rw [hlen] at hbytes
          rw [hbytes, List.take_append_drop]

/-- Only the minimal octets of a length are read. -/
theorem lengthFrom_eq_ok {first : UInt8} {n : Nat} {bs rest : Bytes}
    (h : lengthFrom first bs = .ok (n, rest)) :
    n < lengthBound ∧ first :: bs = lengthOctets n ++ rest := by
  unfold lengthFrom at h
  split at h
  · next hshort =>
    cases h
    have hlt : first.toNat < 128 := UInt8.lt_iff_toNat_lt.mp hshort
    refine ⟨Nat.lt_trans hlt (by decide), ?_⟩
    simp [lengthOctets, hlt]
  · next hlong =>
    split at h
    · cases h
    · obtain ⟨hlow, hhigh, hcount, hbs⟩ := longLength_eq_ok h
      have hge : 128 ≤ first.toNat := Nat.not_lt.mp fun hlt => hlong (UInt8.lt_iff_toNat_lt.mpr hlt)
      refine ⟨hhigh, ?_⟩
      have hfirst : UInt8.ofNat (128 + Bytes.width n) = first := by
        rw [← hcount, Nat.add_sub_cancel' hge, UInt8.ofNat_toNat]
      rw [hbs, hcount]
      simp [lengthOctets, Nat.not_lt.mpr hlow, hfirst]

/-- The definite form of a length in the fewest bytes: one byte below 128, or else its bytes without
a leading zero, after a byte that counts them and has the high bit set. -/
inductive MinimalLength : Nat → Bytes → Prop
  | short {n : Nat} (h : n < 128) : MinimalLength n [UInt8.ofNat n]
  | long {body : Bytes} (hcount : body.length < 127) (hhead : body.head? ≠ some 0)
      (hlow : 128 ≤ Bytes.toNat body) :
      MinimalLength (Bytes.toNat body) (UInt8.ofNat (128 + body.length) :: body)

/-- The minimal octets of a length are unique. -/
theorem minimalLength_iff {n : Nat} {octets : Bytes} (h : n < lengthBound) :
    MinimalLength n octets ↔ octets = lengthOctets n := by
  constructor
  · intro hmin
    cases hmin with
    | short hn => rw [lengthOctets, if_pos hn]
    | @long body hcount hhead hlow =>
      have hwidth : Bytes.width (Bytes.toNat body) = body.length := by
        cases body with
        | nil =>
          rw [Bytes.toNat_nil] at hlow
          omega
        | cons b tail =>
          refine Bytes.width_toNat tail ?_
          simpa using hhead
      rw [lengthOctets, if_neg (Nat.not_lt.mpr hlow), hwidth, Bytes.ofNat_toNat]
  · rintro rfl
    unfold lengthOctets
    split
    · next hn => exact .short hn
    · next hn =>
      have hlen := Bytes.length_ofNat (Bytes.width n) n
      have hnum : Bytes.toNat (Bytes.ofNat (Bytes.width n) n) = n :=
        Bytes.toNat_ofNat_of_lt (Bytes.lt_pow_width n)
      have hw := width_le_four h
      have hhead : (Bytes.ofNat (Bytes.width n) n).head? ≠ some 0 := by
        cases hbs : Bytes.ofNat (Bytes.width n) n with
        | nil => simp
        | cons b tail => simpa using Bytes.head_ofNat_width hbs
      have hmin := MinimalLength.long (by omega) hhead (by omega)
      rw [hnum] at hmin
      exact hmin

/-! ## Elements -/

/-- The elements that can be read back: a tag of one byte, and a length of at most four. -/
def Readable (tag : UInt8) (value : Bytes) : Prop :=
  tag.toNat % 32 ≠ 31 ∧ value.length < lengthBound

theorem read_encode {tag : UInt8} {value : Bytes} (rest : Bytes) (h : Readable tag value) :
    read (encode tag value ++ rest) = .ok (⟨tag, value⟩, rest) := by
  obtain ⟨first, more, hoctets, hlength⟩ := lengthFrom_lengthOctets (value ++ rest) h.2
  have hbytes : encode tag value ++ rest = tag :: first :: (more ++ (value ++ rest)) := by
    simp [encode, hoctets]
  rw [hbytes, read, if_neg h.1, hlength]
  simp

/-- What is read is the canonical encoding of the element, with the rest behind it. -/
theorem eq_encode_of_read {bs rest : Bytes} {e : Element} (h : read bs = .ok (e, rest)) :
    Readable e.tag e.value ∧ bs = encode e.tag e.value ++ rest := by
  unfold read at h
  split at h
  · next tag first more =>
    obtain ⟨htag, h⟩ := guard_eq_ok.mp h
    obtain ⟨⟨n, tail⟩, hlength, h⟩ := bind_eq_ok.mp h
    obtain ⟨hfits, h⟩ := guard_eq_ok.mp h
    cases h
    obtain ⟨hbound, hbytes⟩ := lengthFrom_eq_ok hlength
    have hlen : (tail.take n).length = n := by
      rw [List.length_take]
      omega
    refine ⟨⟨htag, by rw [hlen]; exact hbound⟩, ?_⟩
    rw [encode, hlen, hbytes, List.cons_append, List.append_assoc, List.take_append_drop]
  · cases h

theorem read_eq_ok_iff {bs rest : Bytes} {tag : UInt8} {value : Bytes} :
    read bs = .ok (⟨tag, value⟩, rest) ↔
      Readable tag value ∧ bs = encode tag value ++ rest := by
  constructor
  · intro h
    exact eq_encode_of_read h
  · rintro ⟨h, rfl⟩
    exact read_encode rest h

/-- An element is read under a tag exactly from its own encoding, if it is short enough. -/
theorem expect_eq_ok_iff {bs rest : Bytes} {tag : UInt8} {value : Bytes} :
    expect tag bs = .ok (value, rest) ↔
      Readable tag value ∧ bs = encode tag value ++ rest := by
  rw [← read_eq_ok_iff]
  unfold expect
  constructor
  · intro h
    obtain ⟨⟨e, tail⟩, hread, h⟩ := bind_eq_ok.mp h
    obtain ⟨htag, h⟩ := guard_eq_ok.mp h
    cases h
    rw [hread, ← not_not.mp htag]
  · intro h
    rw [h]
    simp

theorem expect_encode {tag : UInt8} {value : Bytes} (rest : Bytes) (h : Readable tag value) :
    expect tag (encode tag value ++ rest) = .ok (value, rest) :=
  expect_eq_ok_iff.mpr ⟨h, rfl⟩

/-- An element that another one starts with is that one. -/
theorem encode_append_inj {tag tag' : UInt8} {value value' rest rest' : Bytes}
    (h : Readable tag value) (h' : Readable tag' value')
    (heq : encode tag value ++ rest = encode tag' value' ++ rest') :
    tag = tag' ∧ value = value' ∧ rest = rest' := by
  have hread := read_encode rest h
  rw [heq, read_encode rest' h'] at hread
  cases hread
  exact ⟨rfl, rfl, rfl⟩

theorem length_encode_le (tag : UInt8) (value : Bytes) (h : value.length < lengthBound) :
    (encode tag value).length ≤ value.length + 6 := by
  have hw := width_le_four h
  simp only [encode, lengthOctets]
  split
  · simp
  · simp only [List.length_cons, List.length_append, Bytes.length_ofNat]
    omega

end WebKeys.Der
