import WebKeys.Proofs.LongArc

/-!
# Dotted forms are one to one with bytes

In one direction everything is settled by reading strictly: bytes that are read are the bytes of
their dotted form, which is canonical, and bytes are refused for one of three faults that can be
seen in them (`dotted_forms_correspond`).

The other direction is lenient about the spelling of an arc. It checks the first two arcs only from
above, so that negative arcs pass (`Admitted`). Then there are three ways to go on:

* no arc is negative, and the bytes have the arcs for their dotted form;
* a number that is to be written is negative, and its digits have no end;
* a negative second arc makes up for the first one, and the bytes are those of another identifier.

`writing_of_text` tells them apart.
-/

namespace WebKeys.ObjectId

open Outcome

attribute [local instance (2000)] instPowNat

/-! ## Faults of bytes -/

/-- The bytes end inside a number, as the last of them is marked as followed by more. -/
def CutOff (bs : Bytes) : Prop := ∃ b ∈ bs.getLast?, 128 ≤ b

/-- Some number starts with a zero digit that is followed by more: such a byte comes first, or after
the last byte of a number. -/
def Padded (bs : Bytes) : Prop :=
  ∃ before after, bs = before ++ 128 :: after ∧ ∀ b ∈ before.getLast?, b < 128

theorem numbers_cons {pending : Option Nat} {b : UInt8} (hpad : ¬(pending.isNone ∧ b = 128))
    (rest : Bytes) : numbers pending (b :: rest) =
      if b < 128 then (numbers none rest).map ((128 * pending.getD 0 + b.toNat % 128) :: ·)
      else numbers (some (128 * pending.getD 0 + b.toNat % 128)) rest := by
  rw [numbers, if_neg hpad]

/-- The first byte of the tail stands at the start of a number if the byte before it ends one. -/
theorem numbers_eq_padded_iff {pending : Option Nat} {bs : Bytes} :
    numbers pending bs = .error .paddedObjectId ↔ ∃ before after, bs = before ++ 128 :: after ∧
      (before = [] → pending = none) ∧ ∀ b ∈ before.getLast?, b < 128 := by
  induction bs generalizing pending with
  | nil =>
    refine iff_of_false (fun h => ?_) (by simp)
    rw [numbers] at h
    split at h <;> cases h
  | cons b rest ih =>
    by_cases hpad : pending.isNone ∧ b = 128
    · have hnone : pending = none := Option.isNone_iff_eq_none.mp hpad.1
      rw [numbers, if_pos hpad]
      exact iff_of_true rfl ⟨[], rest, by rw [hpad.2]; rfl, fun _ => hnone, by simp⟩
    · have htail : numbers pending (b :: rest) = .error .paddedObjectId ↔
          ∃ before after, rest = before ++ 128 :: after ∧ (before = [] → b < 128) ∧
            ∀ b ∈ before.getLast?, b < 128 := by
        rw [numbers_cons hpad]
        split
        · next hlast => simp [map_eq_error, ih, hlast]
        · next hmore => simp [ih, hmore]
      rw [htail]
      constructor
      · rintro ⟨before, after, rfl, hstart, hlast⟩
        refine ⟨b :: before, after, rfl, by simp, ?_⟩
        cases before with
        | nil => simpa using hstart rfl
        | cons b' before => simpa [List.getLast?_cons_cons] using hlast
      · rintro ⟨before, after, heq, hstart, hlast⟩
        cases before with
        | nil =>
          rw [List.nil_append, List.cons.injEq] at heq
          exact absurd ⟨by simp [hstart rfl], heq.1⟩ hpad
        | cons b' before =>
          rw [List.cons_append, List.cons.injEq] at heq
          obtain ⟨rfl, rfl⟩ := heq
          refine ⟨before, after, rfl, ?_, ?_⟩
          · rintro rfl
            exact hlast b (by simp)
          · cases before with
            | nil => simp
            | cons b' before => simpa [List.getLast?_cons_cons] using hlast

/-- Reading numbers has two faults, of which one is seen at the end of the bytes only. -/
theorem fault_of_numbers {pending : Option Nat} {bs : Bytes} {fault : DerFault}
    (h : numbers pending bs = .error fault) :
    fault = .paddedObjectId ∨ fault = .truncatedObjectId ∧ (bs = [] ∨ CutOff bs) := by
  induction bs generalizing pending with
  | nil =>
    rw [numbers] at h
    split at h
    · cases h
      exact Or.inr ⟨rfl, Or.inl rfl⟩
    · cases h
  | cons b rest ih =>
    by_cases hpad : pending.isNone ∧ b = 128
    · rw [numbers, if_pos hpad] at h
      cases h
      exact Or.inl rfl
    · have hend (hcut : rest = [] → 128 ≤ b) (hrest : rest = [] ∨ CutOff rest) :
          CutOff (b :: rest) := by
        cases rest with
        | nil => exact ⟨b, rfl, hcut rfl⟩
        | cons b' rest =>
          obtain ⟨last, hlast, hmore⟩ := hrest.resolve_left (by simp)
          exact ⟨last, by rwa [List.getLast?_cons_cons], hmore⟩
      rw [numbers_cons hpad] at h
      split at h
      · have h := map_eq_error.mp h
        have hne : rest ≠ [] := by
          rintro rfl
          cases h
        exact (ih h).imp_right (And.imp_right fun hrest => Or.inr (hend (absurd · hne) hrest))
      · next hmore =>
        exact (ih h).imp_right (And.imp_right fun hrest =>
          Or.inr (hend (fun _ => UInt8.not_lt.mp hmore) hrest))

theorem all_getLast?_iff {bs : Bytes} :
    bs.getLast?.all (128 ≤ ·) = true ↔ bs = [] ∨ CutOff bs := by
  unfold CutOff
  cases hlast : bs.getLast? with
  | none => simp [List.getLast?_eq_none_iff.mp hlast]
  | some b =>
    have hne : bs ≠ [] := by
      rintro rfl
      cases hlast
    simp [hne]

/-- Bytes are no arcs exactly if there are none, or they end inside a number, or a number in them
starts with a zero digit. -/
theorem arcs_eq_error_iff {bs : Bytes} :
    (∃ fault, arcs bs = .error fault) ↔ bs = [] ∨ CutOff bs ∨ Padded bs := by
  rw [← or_assoc, ← all_getLast?_iff]
  unfold arcs
  by_cases hend : bs.getLast?.all (128 ≤ ·) = true
  · rw [if_pos hend]
    exact iff_of_true ⟨_, rfl⟩ (Or.inl hend)
  · rw [if_neg hend, or_iff_right hend]
    constructor
    · rintro ⟨fault, h⟩
      have h := map_eq_error.mp h
      obtain rfl | ⟨rfl, hcut⟩ := fault_of_numbers h
      · obtain ⟨before, after, heq, -, hlast⟩ := numbers_eq_padded_iff.mp h
        exact ⟨before, after, heq, hlast⟩
      · exact absurd (all_getLast?_iff.mpr hcut) hend
    · rintro ⟨before, after, heq, hlast⟩
      exact ⟨_, map_eq_error.mpr
        (numbers_eq_padded_iff.mpr ⟨before, after, heq, fun _ => rfl, hlast⟩)⟩

theorem decode_eq_der {bs : Bytes} {fault : DerFault} :
    decode bs = .error (.der fault) ↔ arcs bs = .error fault := by
  unfold decode
  cases arcs bs with
  | error fault' => simp
  | ok ns => cases htext : text? ns <;> simp [htext]

/-! ## One to one -/

theorem canonical_of_decode {bs : Bytes} {s : String} (h : decode bs = .ok s) : Canonical s := by
  obtain ⟨ns, harcs, htext⟩ := decode_eq_ok.mp h
  obtain ⟨n, rest, rfl, -⟩ := arcs_eq_ok harcs
  obtain ⟨first, second, heq, hshare, -⟩ := splitFirst_eq n
  refine ⟨first, second, rest, hshare, ?_⟩
  rw [(text?_eq_some.mp htext).2, heq]
  rfl

/-- Bytes that are read have a canonical form, and are the bytes of it, so that no other bytes have
the same form. Canonical forms of arcs that are not too long are read from the bytes that they are
written as. Three faults of bytes and too long arcs are all that keeps bytes from having a form. -/
theorem dotted_forms_correspond :
    (∀ bs s, decode bs = .ok s → encode s = .ok bs ∧ Canonical s) ∧
    (∀ bs bs' s, decode bs = .ok s → decode bs' = .ok s → bs = bs') ∧
    (∀ s, Canonical s → ShortArcs s → ∃ bs, encode s = .ok bs ∧ decode bs = .ok s) ∧
    ∀ bs, ((∃ fault, decode bs = .error (.der fault)) ↔ bs = [] ∨ CutOff bs ∨ Padded bs) ∧
      (decode bs = .error .longArc ↔ TooLong bs) := by
  refine ⟨fun bs s h => ⟨encode_of_decode h, canonical_of_decode h⟩,
    fun bs bs' s h h' => decode_injective h h', fun s h hshort => decode_of_canonical h hshort,
    fun bs => ⟨?_, decode_eq_longArc⟩⟩
  simp only [decode_eq_der]
  exact arcs_eq_error_iff

/-- The identifier of elliptic curve keys. -/
theorem ec_identifier_corresponds :
    decode [0x2A, 0x86, 0x48, 0xCE, 0x3D, 0x02, 0x01] = .ok "1.2.840.10045.2.1" ∧
      encode "1.2.840.10045.2.1" = .ok [0x2A, 0x86, 0x48, 0xCE, 0x3D, 0x02, 0x01] ∧
      Canonical "1.2.840.10045.2.1" :=
  ⟨rfl, dotted_forms_correspond.1 _ _ rfl⟩

/-- The largest shared number under the first arc 1, and the smallest under 2. -/
example : decode [0x4F] = .ok "1.39" ∧ decode [0x50] = .ok "2.0" := ⟨rfl, rfl⟩

/-! ## Writing what a text spells -/

/-- The arcs pass the checks on an identifier: there are two at least, the first is no more than 2,
and below 2 it leaves fewer than 40 values for the second. Nothing is checked from below. -/
def Admitted (ns : List Int) : Prop :=
  ∃ first second rest, ns = first :: second :: rest ∧ first ≤ 2 ∧ (first < 2 → second < 40)

theorem joinFirst?_of_admitted {first second : Int} (rest : List Int) (hle : first ≤ 2)
    (hlt : first < 2 → second < 40) :
    joinFirst? (first :: second :: rest) = some ((40 * first + second) :: rest) := by
  rw [joinFirst?, if_neg (by omega)]

theorem joinFirst?_eq_none {ns : List Int} : joinFirst? ns = none ↔ ¬Admitted ns := by
  constructor
  · rintro h ⟨first, second, rest, rfl, hle, hlt⟩
    rw [joinFirst?_of_admitted rest hle hlt] at h
    cases h
  · intro h
    unfold joinFirst?
    split
    · next first second rest =>
      rw [if_pos]
      by_contra hcheck
      exact h ⟨first, second, rest, rfl, by omega, by omega⟩
    · rfl

theorem mapM_base128?_eq_none {ns : List Int} :
    ns.mapM base128? = none ↔ ∃ n ∈ ns, n < 0 := by
  induction ns with
  | nil => simp
  | cons n ns ih =>
    rw [List.mapM_cons, List.exists_mem_cons_iff, ← ih]
    by_cases hneg : n < 0
    · simp [base128?_of_neg hneg, hneg]
    · obtain ⟨m, rfl⟩ := Int.eq_ofNat_of_zero_le (Int.not_lt.mp hneg)
      rw [base128?_natCast]
      cases ns.mapM base128? <;> simp

/-- Every arc that is read is small enough to be written again. -/
theorem natAbs_lt_of_parse {s : String} {ns : List Int} (h : parse s = .ok ns) :
    ∀ n ∈ ns, n.natAbs < 10 ^ Text.longestNumeral := by
  have hparts : ∀ (ps : List (List Char)) (ns : List Int),
      (ps.mapM fun part => Text.integer? (String.ofList part)) = some ns →
        ∀ n ∈ ns, n.natAbs < 10 ^ Text.longestNumeral := by
    intro ps
    induction ps with
    | nil =>
      rintro ns ⟨⟩
      simp
    | cons part ps ih =>
      intro ns hns
      rw [List.mapM_cons] at hns
      obtain ⟨n, hn, hns⟩ := Option.bind_eq_some_iff.mp hns
      obtain ⟨ns', hns', ⟨⟩⟩ := Option.bind_eq_some_iff.mp hns
      rw [List.forall_mem_cons]
      exact ⟨Text.natAbs_lt_of_integer? hn, ih ns' hns'⟩
  unfold parse at h
  split at h
  · next ns' hns =>
    cases h
    exact hparts _ _ hns
  · cases h

/-- The text is refused: an arc is no number, or the arcs do not pass the checks. -/
def Refused (s : String) : Prop := encode s = .error .arc ∨ encode s = .error (.objectId s)

/-- The text is written as the bytes whose dotted form has these arcs. -/
def WrittenAs (s : String) (ns : List Nat) : Prop :=
  ∃ bs, encode s = .ok bs ∧ decode bs = .ok (".".intercalate (ns.map Nat.repr))

/-- The text spells the arcs of an identifier, and is written as the bytes that have them. -/
def WrittenAsSpelled (s : String) : Prop :=
  ∃ first second rest, parse s = .ok ((first :: second :: rest).map Int.ofNat) ∧
    Sharing first second ∧ WrittenAs s (first :: second :: rest)

theorem refused_iff {s : String} :
    Refused s ↔ ∀ ns, parse s = .ok ns → ¬Admitted ns := by
  unfold Refused encode
  cases hparse : parse s with
  | error why =>
    have hwhy : why = .arc := by
      unfold parse at hparse
      split at hparse <;> cases hparse
      rfl
    simp [hwhy]
  | ok ns =>
    have hall : (∀ ns', Except.ok (ε := Refusal) ns = .ok ns' → ¬Admitted ns') ↔ ¬Admitted ns :=
      ⟨fun h => h ns rfl, by rintro h _ ⟨⟩; exact h⟩
    rw [hall, ← joinFirst?_eq_none, ok_bind]
    cases joinFirst? ns with
    | none => simp
    | some ms => cases hms : ms.mapM base128? <;> simp [hms]

/-- Numbers from zero on are written, and their bytes have the dotted form that they are split
into. -/
theorem writtenAs_of_joined {s : String} {ns : List Int} {n : Nat} {rest : List Nat}
    (hparse : parse s = .ok ns) (hjoin : joinFirst? ns = some ((n :: rest).map Int.ofNat))
    (hshort : ∀ m ∈ splitFirst n ++ rest, m < 10 ^ Text.longestNumeral) :
    WrittenAs s (splitFirst n ++ rest) :=
  ⟨_, encode_of_joinFirst? hparse hjoin,
    decode_eq_ok.mpr ⟨_, arcs_flatMap_base128 n rest, text?_eq_some.mpr ⟨hshort, rfl⟩⟩⟩

/-- A negative arc passes the checks. -/
def AdmitsNegative (s : String) : Prop :=
  ∃ ns, parse s = .ok ns ∧ Admitted ns ∧ ∃ n ∈ ns, n < 0

/-- Writing goes on without end exactly when the bounds let a negative number through. -/
theorem encode_eq_endless {s : String} :
    encode s = .error .endless ↔ ∃ first second rest, parse s = .ok (first :: second :: rest) ∧
      first ≤ 2 ∧ (first < 2 → second < 40) ∧ (40 * first + second < 0 ∨ ∃ n ∈ rest, n < 0) := by
  unfold encode
  constructor
  · intro h
    obtain hparse | ⟨ns, hparse, h⟩ := bind_eq_error.mp h
    · unfold parse at hparse
      split at hparse <;> cases hparse
    · split at h
      · cases h
      · next ms hjoin =>
        have hadmitted : Admitted ns := by
          by_contra hnot
          rw [joinFirst?_eq_none.mpr hnot] at hjoin
          cases hjoin
        obtain ⟨first, second, rest, rfl, hle, hlt⟩ := hadmitted
        rw [joinFirst?_of_admitted rest hle hlt] at hjoin
        cases hjoin
        split at h
        · cases h
        · next hnone =>
          have hneg := mapM_base128?_eq_none.mp hnone
          rw [List.exists_mem_cons_iff] at hneg
          exact ⟨first, second, rest, hparse, hle, hlt, hneg⟩
  · rintro ⟨first, second, rest, hparse, hle, hlt, hneg⟩
    have hnone : ((40 * first + second) :: rest).mapM base128? = none :=
      mapM_base128?_eq_none.mpr (by simpa using hneg)
    rw [hparse, ok_bind, joinFirst?_of_admitted rest hle hlt]
    dsimp only
    rw [hnone]

/-- Arcs whose numbers are not negative are written, the first two in the only way that fits the
number they share. -/
theorem writtenAs_of_nonneg {s : String} {first second : Int} {rest : List Int}
    (hparse : parse s = .ok (first :: second :: rest)) (hle : first ≤ 2)
    (hlt : first < 2 → second < 40) (hshared : 0 ≤ 40 * first + second)
    (hrest : ∀ n ∈ rest, 0 ≤ n) : ∃ (n : Nat) (rest' : List Nat), 40 * first + second = n ∧
      rest = rest'.map Int.ofNat ∧ WrittenAs s (splitFirst n ++ rest') := by
  obtain ⟨n, hn⟩ := Int.eq_ofNat_of_zero_le hshared
  obtain ⟨rest', rfl⟩ : ∃ rest' : List Nat, rest'.map Int.ofNat = rest := CanLift.prf rest hrest
  refine ⟨n, rest', hn, rfl, writtenAs_of_joined hparse ?_ ?_⟩
  · rw [joinFirst?_of_admitted _ hle hlt, hn]
    rfl
  · have hsmall := natAbs_lt_of_parse hparse
    rw [List.forall_mem_cons, List.forall_mem_cons, List.forall_mem_map] at hsmall
    obtain ⟨-, hsecond, hrest'⟩ := hsmall
    have hforty : 40 ≤ 10 ^ Text.longestNumeral :=
      Nat.le_trans (by decide : 40 ≤ 10 ^ 2) (Nat.pow_le_pow_right (by decide) (by decide))
    obtain ⟨first', second', heq, ⟨hle', hlt'⟩, hsum⟩ := splitFirst_eq n
    -- The second arc that is found is no larger than the one that was spelled, or it is below 40.
    rw [heq, List.cons_append, List.cons_append, List.nil_append, List.forall_mem_cons,
      List.forall_mem_cons]
    refine ⟨by omega, ?_, hrest'⟩
    by_cases htwo : first' < 2
    · exact Nat.lt_of_lt_of_le (hlt' htwo) hforty
    · omega

/-- A text is refused, or written as the identifier that it spells, unless a negative arc passes the
checks. If one does, either the digits have no end, which is so exactly if a number is negative that
is to be written, or the bytes are those of other arcs. -/
theorem writing_of_text (s : String) :
    (Refused s ∨ WrittenAsSpelled s ↔ ¬AdmitsNegative s) ∧
    (AdmitsNegative s → encode s = .error .endless ∨
      ∃ ns ms, parse s = .ok ns ∧ ms.map Int.ofNat ≠ ns ∧ WrittenAs s ms) ∧
    (encode s = .error .endless ↔ ∃ first second rest, parse s = .ok (first :: second :: rest) ∧
      first ≤ 2 ∧ (first < 2 → second < 40) ∧
      (40 * first + second < 0 ∨ ∃ n ∈ rest, n < 0)) := by
  have hnatural {ms : List Nat} {ns : List Int} (hneg : ∃ n ∈ ns, n < 0) :
      ms.map Int.ofNat ≠ ns := by
    rintro rfl
    obtain ⟨n, hn, hneg⟩ := hneg
    obtain ⟨m, -, rfl⟩ := List.mem_map.mp hn
    exact absurd hneg (by simp)
  refine ⟨⟨?_, fun h => ?_⟩, ?_, encode_eq_endless⟩
  · rintro (hrefused | ⟨first, second, rest, hparse, -, -⟩) ⟨ns, hns, hadmitted, hneg⟩
    · exact refused_iff.mp hrefused ns hns hadmitted
    · rw [hparse] at hns
      cases hns
      exact hnatural hneg rfl
  · by_cases hrefused : Refused s
    · exact Or.inl hrefused
    · rw [refused_iff] at hrefused
      push Not at hrefused
      obtain ⟨ns, hparse, hadmitted⟩ := hrefused
      have hnonneg : ∀ n ∈ ns, 0 ≤ n := fun n hn => Int.not_lt.mp fun hneg =>
        h ⟨ns, hparse, hadmitted, n, hn, hneg⟩
      obtain ⟨first, second, rest, rfl, hle, hlt⟩ := hadmitted
      rw [List.forall_mem_cons, List.forall_mem_cons] at hnonneg
      obtain ⟨hfirst, hsecond, hrest⟩ := hnonneg
      obtain ⟨n, rest', hn, rfl, hwritten⟩ :=
        writtenAs_of_nonneg hparse hle hlt (by omega) hrest
      obtain ⟨first, rfl⟩ := Int.eq_ofNat_of_zero_le hfirst
      obtain ⟨second, rfl⟩ := Int.eq_ofNat_of_zero_le hsecond
      have hshare : Sharing first second := by
        unfold Sharing
        omega
      obtain rfl : n = 40 * first + second := by omega
      rw [splitFirst_shared hshare] at hwritten
      exact Or.inr ⟨first, second, rest', hparse, hshare, hwritten⟩
  · rintro ⟨ns, hparse, ⟨first, second, rest, rfl, hle, hlt⟩, hneg⟩
    by_cases hendless : 40 * first + second < 0 ∨ ∃ n ∈ rest, n < 0
    · exact Or.inl (encode_eq_endless.mpr ⟨first, second, rest, hparse, hle, hlt, hendless⟩)
    · push Not at hendless
      obtain ⟨n, rest', -, -, hwritten⟩ :=
        writtenAs_of_nonneg hparse hle hlt hendless.1 hendless.2
      exact Or.inr ⟨_, _, hparse, hnatural hneg, hwritten⟩

/-- The second arc -40 makes up for the first arc 1: the bytes are those of 0.0. -/
theorem negative_arc_made_up_for :
    ¬(Refused "1.-40" ∨ WrittenAsSpelled "1.-40") ∧
      encode "1.-40" = .ok [0] ∧ decode [0] = .ok "0.0" := by
  have hparse : parse "1.-40" = .ok [1, -40] := by rfl
  have hjoin : joinFirst? [1, -40] = some ([0].map Int.ofNat) := rfl
  have hencode : encode "1.-40" = .ok [0] := by
    rw [encode_of_joinFirst? hparse hjoin]
    simp [base128, leadingDigits_zero]
  refine ⟨?_, hencode, rfl⟩
  rintro (hrefused | ⟨first, second, rest, hspelled, -, -⟩)
  · unfold Refused at hrefused
    rw [hencode] at hrefused
    simp at hrefused
  · rw [hparse] at hspelled
    simp at hspelled

/-- A negative arc behind the first two is never done. -/
example : encode "1.2.-1" = .error .endless :=
  encode_eq_endless.mpr ⟨1, 2, [-1], by rfl, by decide, by decide, by decide⟩

end WebKeys.ObjectId
