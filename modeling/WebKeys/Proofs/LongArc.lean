import WebKeys.Proofs.KeyInformation

/-!
# Arcs that are too long to write

An object identifier is read as numbers of any size, and then written in decimal, where a number
may have `Text.longestNumeral` digits. Bytes with a longer arc are therefore a fault that is none of
DER: `decode_eq_longArc` for an identifier by itself, and `parse_eq_longArc` for a key information
with one as its algorithm or at the start of its parameters.
-/

namespace WebKeys

open Outcome

namespace ObjectId

attribute [local instance (2000)] instPowNat

/-- The bytes are arcs, one of which has more digits than are written. -/
def TooLong (value : Bytes) : Prop :=
  ∃ ns, arcs value = .ok ns ∧ ∃ n ∈ ns, 10 ^ Text.longestNumeral ≤ n

theorem text?_eq_none {ns : List Nat} :
    text? ns = none ↔ ∃ n ∈ ns, 10 ^ Text.longestNumeral ≤ n := by
  rw [Option.eq_none_iff_forall_not_mem]
  constructor
  · intro h
    by_contra hall
    push Not at hall
    exact h _ (text?_eq_some.mpr ⟨hall, rfl⟩)
  · rintro ⟨n, hn, hlong⟩ s hs
    exact absurd ((text?_eq_some.mp hs).1 n hn) (Nat.not_lt.mpr hlong)

/-- An identifier is refused for its length exactly when one of its arcs is too long to be written.
-/
theorem decode_eq_longArc {value : Bytes} : decode value = .error .longArc ↔ TooLong value := by
  unfold decode TooLong
  cases harcs : arcs value with
  | error fault => simp
  | ok ns =>
    have hone : (∃ ns', Except.ok (ε := DerFault) ns = .ok ns' ∧
        ∃ n ∈ ns', 10 ^ Text.longestNumeral ≤ n) ↔ text? ns = none := by
      rw [text?_eq_none]
      simp
    rw [hone]
    dsimp only
    cases text? ns <;> simp

/-! ## The shortest of them -/

theorem length_leadingDigits_le {n k : Nat} (h : n < 128 ^ k) : (leadingDigits n).length ≤ k := by
  induction k generalizing n with
  | zero =>
    have hn : n = 0 := by simpa using h
    rw [hn, leadingDigits]
    simp
  | succ k ih =>
    rw [leadingDigits]
    split
    · exact Nat.zero_le _
    · have hdiv : n / 128 < 128 ^ k := Nat.div_lt_of_lt_mul (by rwa [Nat.pow_succ'] at h)
      have := ih hdiv
      rw [List.length_append, List.length_singleton]
      omega

theorem tooLong_base128 {n : Nat} (h : 10 ^ Text.longestNumeral + 80 ≤ n) :
    TooLong (base128 n) := by
  have harcs := arcs_flatMap_base128 n []
  rw [List.flatMap_singleton, List.append_nil] at harcs
  refine ⟨_, harcs, n - 80, ?_, Nat.le_sub_of_add_le h⟩
  have hle : 80 ≤ n := Nat.le_trans (Nat.le_add_left 80 _) h
  have h40 : ¬n < 40 := by omega
  have h80 : ¬n < 80 := by omega
  rw [splitFirst, if_neg h40, if_neg h80]
  simp

end ObjectId

namespace PublicKeyInfo

attribute [local instance (2000)] instPowNat

open Der
open ObjectId (TooLong Unreadable)

/-- An identifier that is too long to write: that of the algorithm, or, the algorithm being
readable, one that stands first among its parameters. -/
def HasLongArc (bs : Bytes) : Prop :=
  ∃ value rest bits, Framable (Der.encode objectIdTag value ++ rest) bits ∧
    bs = framed (Der.encode objectIdTag value ++ rest) bits ∧
    (TooLong value ∨ (∃ s, ObjectId.decode value = .ok s) ∧
      ∃ value' rest', value'.length < lengthBound ∧ rest = Der.encode objectIdTag value' ++ rest' ∧
        TooLong value')

theorem part_ne_longArc {α : Type} (r : Except DerFault α) :
    part r ≠ .error Unreadable.longArc := by
  cases r <;> simp [part, Except.mapError]

theorem parseParameters_eq_longArc {bs : Bytes} :
    parseParameters bs = .error .longArc ↔ ∃ value rest, value.length < lengthBound ∧
      bs = Der.encode objectIdTag value ++ rest ∧ TooLong value := by
  constructor
  · intro h
    unfold parseParameters at h
    split at h
    · cases h
    · obtain hread | ⟨⟨⟨tag, value⟩, rest⟩, hread, hkind⟩ := bind_eq_error.mp h
      · exact absurd hread (part_ne_longArc _)
      · obtain ⟨hreadable, rfl⟩ := read_eq_ok_iff.mp (part_eq_ok.mp hread)
        dsimp only at hkind
        split at hkind
        · next htag =>
          subst htag
          obtain hdecode | ⟨parameters, -, hrest⟩ := bind_eq_error.mp hkind
          · exact ⟨value, rest, hreadable.2, rfl,
              ObjectId.decode_eq_longArc.mp (map_eq_error.mp hdecode)⟩
          · split at hrest <;> cases hrest
        · split at hkind <;> cases hkind
  · rintro ⟨value, rest, hlen, rfl, hlong⟩
    have hread := read_encode rest (readable_objectId hlen)
    have hdecode := ObjectId.decode_eq_longArc.mpr hlong
    rw [parseParameters, if_neg (by simp [Der.encode]), hread]
    simp [part, Except.mapError, Except.map, hdecode]

/-- Key information is refused for a long arc exactly where such an identifier stands. -/
theorem parse_eq_longArc {bs : Bytes} : parse bs = .error .longArc ↔ HasLongArc bs := by
  constructor
  · intro h
    obtain hframes | ⟨⟨identifier, bits⟩, hframes, hcontents⟩ := bind_eq_error.mp h
    · exact absurd hframes (part_ne_longArc _)
    obtain hoid | ⟨⟨value, rest⟩, hoid, hnames⟩ := bind_eq_error.mp hcontents
    · exact absurd hoid (part_ne_longArc _)
    obtain ⟨hframable, rfl⟩ := frames_eq_ok_iff.mp (part_eq_ok.mp hframes)
    obtain ⟨-, rfl⟩ := expect_eq_ok_iff.mp (part_eq_ok.mp hoid)
    refine ⟨value, rest, bits, hframable, rfl, ?_⟩
    obtain halgorithm | ⟨algorithm, halgorithm, hafter⟩ := bind_eq_error.mp hnames
    · exact Or.inl (ObjectId.decode_eq_longArc.mp halgorithm)
    obtain hparameters | ⟨parameters, -, hbits⟩ := bind_eq_error.mp hafter
    · exact Or.inr ⟨⟨algorithm, halgorithm⟩, parseParameters_eq_longArc.mp hparameters⟩
    · split at hbits <;> cases hbits
  · rintro ⟨value, rest, bits, hframable, rfl, hlong⟩
    have hlen : value.length < lengthBound := by
      have h1 := hframable.identifier
      have h2 := length_le_length_encode objectIdTag value
      rw [List.length_append] at h1
      omega
    have hoid := expect_encode rest (readable_objectId hlen)
    rw [parse, frames_eq_ok_iff.mpr ⟨hframable, rfl⟩]
    rcases hlong with hlong | ⟨⟨s, hs⟩, hparameters⟩
    · simp [part, Except.mapError, hoid, ObjectId.decode_eq_longArc.mpr hlong]
    · simp [part, Except.mapError, hoid, hs, parseParameters_eq_longArc.mpr hparameters]

/-- An information without parameters, whose algorithm has a number that is too long in front. -/
theorem hasLongArc_base128 {n k : Nat} (hlong : 10 ^ Text.longestNumeral + 80 ≤ n)
    (hdigits : n / 128 < 128 ^ k) (hk : k < 65536) :
    HasLongArc (framed (Der.encode objectIdTag (ObjectId.base128 n)) [0]) := by
  have hlen : (ObjectId.base128 n).length ≤ k + 1 := by
    have := ObjectId.length_leadingDigits_le hdigits
    rw [ObjectId.base128, List.length_append, List.length_singleton]
    omega
  have hbound : lengthBound = 2 ^ 32 := by decide
  have hidentifier := length_encode_le objectIdTag (ObjectId.base128 n) (by omega)
  refine ⟨ObjectId.base128 n, [], [0], ?_, ?_, Or.inl (ObjectId.tooLong_base128 hlong)⟩
  · rw [List.append_nil]
    refine framable_of_length ?_
    rw [List.length_singleton]
    omega
  · rw [List.append_nil]

end PublicKeyInfo

end WebKeys
