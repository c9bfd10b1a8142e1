import WebKeys.Proofs.DocumentFailures

/-!
# Derived numbers of RSA keys

Three numbers of a private RSA key follow from its exponent and its primes, and a document may leave
out any of them. Whatever is given is checked and whatever is not is computed, and both come to the
same number: the remainders are computed in the way in which they are checked, and a coefficient
that passes the check is the only reciprocal below the prime, the one that `Arithmetic.inverse?`
finds. That it finds one does not depend on the primes being prime.

* `RsaKey.PartOf`: a key that may lack derived numbers of a whole one. A part is accepted as the
  whole (`RsaKey.PartOf.accepted_eq`), and there is one whole key at most with the same other
  numbers (`RsaKey.Complete.Sound.ext`).
* `WebKey.SpellsPartOf`: the same of documents.
* `WebKey.derived_numbers_optional`: objects that differ in derived members are read as the same web
  key, or are refused for their encoding.
-/

namespace WebKeys

open Outcome

/-! ## Reciprocals -/

namespace Arithmetic

/-- Each remainder is a multiple of `a` modulo `m`, and the last one is the common divisor. -/
theorem euclid_spec {a m : Int} {r next : Nat} {s t : Int} (hr : (r : Int) ≡ s * a [ZMOD m])
    (hnext : (next : Int) ≡ t * a [ZMOD m]) : (euclid r next s t).1 = Nat.gcd r next ∧
      ((euclid r next s t).1 : Int) ≡ (euclid r next s t).2 * a [ZMOD m] := by
  fun_induction euclid r next s t with
  | case1 r s t =>
    exact ⟨(Nat.gcd_zero_right r).symm, hr⟩
  | case2 r next s t hne ih =>
    have hmod : ((r % next : Nat) : Int) ≡ (s - (r / next : Nat) * t) * a [ZMOD m] := by
      have hdiv : ((r % next : Nat) : Int) = r - (r / next : Nat) * next := by
        have h := Nat.div_add_mod' r next
        omega
      rw [hdiv, Int.sub_mul, Int.mul_assoc]
      exact hr.sub (hnext.mul_left _)
    obtain ⟨hgcd, hcombination⟩ := ih hnext hmod
    refine ⟨?_, hcombination⟩
    rw [hgcd, Nat.gcd_comm next, ← Nat.gcd_rec, Nat.gcd_comm]

/-- A reciprocal below the modulus is the one that is found. -/
theorem inverse?_eq_some {a m x : Nat} (hx : x < m) (h : x * a % m = 1) :
    inverse? a m = some x := by
  have hlt : 1 < m := h ▸ Nat.mod_lt _ (by omega)
  have hmod : x * a ≡ 1 [MOD m] := h.trans (Nat.mod_eq_of_lt hlt).symm
  have hone : (x : Int) * a ≡ 1 [ZMOD m] := by
    exact_mod_cast Int.natCast_modEq_iff.mpr hmod
  have hgcd : Nat.gcd (a % m) m = 1 := by
    rw [← Nat.gcd_rec, Nat.gcd_comm]
    exact Nat.coprime_of_mul_modEq_one x (Nat.mul_comm x a ▸ hmod)
  have hspec : (euclid (a % m) m 1 0).1 = Nat.gcd (a % m) m ∧
      ((euclid (a % m) m 1 0).1 : Int) ≡ (euclid (a % m) m 1 0).2 * a [ZMOD m] :=
    euclid_spec (by simp [Int.ModEq]) (by simp [Int.ModEq])
  unfold inverse?
  generalize euclid (a % m) m 1 0 = result at hspec ⊢
  obtain ⟨g, s⟩ := result
  obtain ⟨hdivisor, hcombination⟩ := hspec
  dsimp only at hdivisor hcombination ⊢
  rw [hdivisor.trans hgcd] at hcombination ⊢
  have hsame : s ≡ x [ZMOD m] :=
    calc s = s * 1 := (mul_one s).symm
      _ ≡ s * (x * a) [ZMOD m] := hone.symm.mul_left s
      _ = s * a * x := by ring
      _ ≡ 1 * x [ZMOD m] := (hcombination.symm.mul_right _)
      _ = x := one_mul _
  rw [if_pos rfl, hsame, Int.emod_eq_of_lt (by omega) (by omega), Int.toNat_natCast]

end Arithmetic

/-! ## Keys without some of their numbers -/

namespace RsaKey

/-- A number that follows from the exponent and the primes, under the name of its member. -/
def derived (k : RsaKey) : String → Option Int
  | "dp" => k.dp
  | "dq" => k.dq
  | "qi" => k.qi
  | _ => none

namespace Complete

/-- The numbers are those of one key, and none of them is negative. -/
structure Sound (whole : Complete) : Prop where
  nonneg : ∀ n ∈ whole.numbers, 0 ≤ n
  consistent : whole.consistent = true

variable {whole : Complete}

theorem one_lt_primes (h : whole.consistent = true) : 1 < whole.p ∧ 1 < whole.q := by
  simp only [consistent, Bool.and_eq_true] at h
  obtain ⟨⟨⟨⟨⟨⟨⟨⟨-, hp⟩, hq⟩, -⟩, -⟩, -⟩, -⟩, -⟩, -⟩ := h
  exact ⟨one_lt_of_isOddPrime hp, one_lt_of_isOddPrime hq⟩

theorem derived_of_consistent (h : whole.consistent = true) :
    whole.dp = whole.d % (whole.p - 1) ∧ whole.dq = whole.d % (whole.q - 1) ∧
      whole.qi < whole.p ∧ whole.qi * whole.q % whole.p = 1 := by
  simp only [consistent, Bool.and_eq_true, beq_iff_eq, decide_eq_true_eq] at h
  obtain ⟨⟨⟨⟨-, hdp⟩, hdq⟩, hlt⟩, hqi⟩ := h
  exact ⟨hdp, hdq, hlt, hqi⟩

/-- What is computed for the coefficient of a key is the one that it has. -/
theorem Sound.coefficient?_eq (h : whole.Sound) :
    coefficient? whole.p whole.q = .ok whole.qi := by
  obtain ⟨hp, hq⟩ := one_lt_primes h.consistent
  obtain ⟨-, -, hlt, hone⟩ := derived_of_consistent h.consistent
  -- Reciprocals are looked for among natural numbers, so the key's numbers are taken there.
  obtain ⟨p, hp'⟩ := Int.eq_ofNat_of_zero_le (Int.le_of_lt (Int.lt_trans Int.zero_lt_one hp))
  obtain ⟨q, hq'⟩ := Int.eq_ofNat_of_zero_le (Int.le_of_lt (Int.lt_trans Int.zero_lt_one hq))
  obtain ⟨qi, hqi'⟩ := Int.eq_ofNat_of_zero_le (h.nonneg whole.qi (by simp [numbers]))
  rw [hp'] at hp
  rw [hq'] at hq
  rw [hp', hqi'] at hlt
  rw [hp', hq', hqi'] at hone ⊢
  have hinverse : Arithmetic.inverse? q p = some qi :=
    Arithmetic.inverse?_eq_some (by exact_mod_cast hlt) (by exact_mod_cast hone)
  rw [coefficient?, if_neg (by omega), Int.toNat_natCast, Int.toNat_natCast, hinverse]
  rfl

/-- The numbers that are derived can be told from the others. -/
theorem Sound.ext {whole' : Complete} (h : whole.Sound) (h' : whole'.Sound)
    (hn : whole.n = whole'.n) (he : whole.e = whole'.e) (hd : whole.d = whole'.d)
    (hp : whole.p = whole'.p) (hq : whole.q = whole'.q) : whole = whole' := by
  obtain ⟨hdp, hdq, -, -⟩ := derived_of_consistent h.consistent
  obtain ⟨hdp', hdq', -, -⟩ := derived_of_consistent h'.consistent
  have hqi := h.coefficient?_eq
  rw [hp, hq, h'.coefficient?_eq] at hqi
  obtain ⟨n, e, d, p, q, dp, dq, qi⟩ := whole
  cases whole'
  dsimp only at *
  subst hn he hd hp hq hdp' hdq'
  rw [hdp, hdq, Except.ok.inj hqi]

end Complete

/-- The key is the whole one, but for derived numbers that it may lack. -/
structure PartOf (k : RsaKey) (whole : Complete) : Prop where
  n : k.n = whole.n
  e : k.e = whole.e
  d : k.d = some whole.d
  p : k.p = some whole.p
  q : k.q = some whole.q
  derived : ∀ name m, k.derived name = some m → whole.toKey.derived name = some m

theorem d_eq_none_of_accepted {k k' : RsaKey} (hd : k.d = none) (h : k.accepted = .ok k') :
    k'.d = none := by
  unfold accepted at h
  rw [hd] at h
  dsimp only at h
  split at h
  · cases h
  · split at h
    · cases h
      rfl
    · cases h

theorem orCompute_eq {given : Option Int} {computed : Result Int} {m : Int}
    (hgiven : ∀ m', given = some m' → m' = m) (hcomputed : computed = .ok m) :
    orCompute given computed = .ok m := by
  cases given with
  | none => exact hcomputed
  | some m' => rw [orCompute, hgiven m' rfl]

/-- A private key that is accepted is accepted as a whole of which it is a part. -/
theorem exists_whole_of_accepted {k k' : RsaKey} {d : Int} (hd : k.d = some d)
    (h : k.accepted = .ok k') : ∃ whole : Complete, whole.Sound ∧ k.PartOf whole ∧
      k' = whole.toKey := by
  unfold accepted at h
  rw [hd] at h
  obtain ⟨whole, hwhole, hchecks⟩ := bind_eq_ok.mp h
  have hsound : whole.Sound ∧ k' = whole.toKey := by
    split at hchecks
    · cases hchecks
    · next hnonneg =>
      split at hchecks
      · next hconsistent =>
        cases hchecks
        exact ⟨⟨by simpa using hnonneg, hconsistent⟩, rfl⟩
      · cases hchecks
  refine ⟨whole, hsound.1, ?_, hsound.2⟩
  unfold complete at hwhole
  split at hwhole
  · next p q hp hq =>
    obtain ⟨dp, hdp, hwhole⟩ := bind_eq_ok.mp hwhole
    obtain ⟨dq, hdq, hwhole⟩ := bind_eq_ok.mp hwhole
    obtain ⟨qi, hqi, hwhole⟩ := bind_eq_ok.mp hwhole
    cases hwhole
    refine ⟨rfl, rfl, hd, hp, hq, fun name m hm => ?_⟩
    unfold derived at hm ⊢
    split at hm
    · exact congrArg some (eq_of_orCompute hdp hm)
    · exact congrArg some (eq_of_orCompute hdq hm)
    · exact congrArg some (eq_of_orCompute hqi hm)
    · cases hm
  · cases hwhole

/-- A part of a whole key is accepted as the whole, as long as what it lacks is computed at all. -/
theorem PartOf.accepted_eq {k : RsaKey} {whole : Complete} (h : k.PartOf whole)
    (hsound : whole.Sound) (hd : 1 < whole.d) : k.accepted = .ok whole.toKey := by
  obtain ⟨hp, hq⟩ := Complete.one_lt_primes hsound.consistent
  obtain ⟨hdp, hdq, -, -⟩ := Complete.derived_of_consistent hsound.consistent
  have hreduced {p : Int} (hp : 1 < p) : reduced? whole.d p = .ok (whole.d % (p - 1)) :=
    if_neg (by omega)
  have hgiven (name : String) {m m' : Int} (hm : whole.toKey.derived name = some m)
      (hm' : k.derived name = some m') : m' = m :=
    Option.some.inj ((h.derived name m' hm').symm.trans hm)
  have hwhole : k.complete whole.d = .ok whole := by
    have hdp' : orCompute k.dp (reduced? whole.d whole.p) = .ok whole.dp :=
      orCompute_eq (fun _ => hgiven "dp" rfl) (by rw [hreduced hp, hdp])
    have hdq' : orCompute k.dq (reduced? whole.d whole.q) = .ok whole.dq :=
      orCompute_eq (fun _ => hgiven "dq" rfl) (by rw [hreduced hq, hdq])
    have hqi' : orCompute k.qi (coefficient? whole.p whole.q) = .ok whole.qi :=
      orCompute_eq (fun _ => hgiven "qi" rfl) hsound.coefficient?_eq
    unfold complete
    rw [h.p, h.q]
    dsimp only
    rw [hdp', ok_bind, hdq', ok_bind, hqi', ok_bind, h.n, h.e]
  have hnonneg : ¬(whole.numbers.any (· < 0)) = true := by simpa using hsound.nonneg
  unfold accepted
  rw [h.d]
  dsimp only
  rw [hwhole, ok_bind, if_neg hnonneg, if_pos hsound.consistent]

end RsaKey

/-! ## Documents without some of their members -/

namespace Document

open Json

/-- The names of the members whose numbers follow from the exponent and the primes. -/
def derivedNames : List String := ["dp", "dq", "qi"]

theorem derivedNames_subset : ∀ name ∈ derivedNames, name ∈ optionalNames := by decide

/-- The text of such a member. -/
def derived (doc : Document) : String → Option String
  | "dp" => doc.dp
  | "dq" => doc.dq
  | "qi" => doc.qi
  | _ => none

theorem faults_eq_nil {ms : Members} : faults ms = [] ↔
    requiredTextFault? ms "kty" = none ∧ ∀ name ∈ optionalNames, textFault? ms name = none := by
  rw [faults, List.append_eq_nil_iff, List.filterMap_eq_nil_iff, Option.toList_eq_nil_iff]

theorem ofMembers_eq_ok {ms : Members} {doc : Document} (h : ofMembers ms = .ok doc) :
    faults ms = [] ∧ ∀ name ∈ derivedNames, doc.derived name = textMember? ms name := by
  unfold ofMembers at h
  split at h
  · next hnone =>
    cases h
    refine ⟨List.isEmpty_iff.mp hnone, ?_⟩
    simp [derivedNames, derived]
  · cases h

theorem textMember?_of_textFault? {ms : Members} {name : String} {v : Json}
    (hfault : textFault? ms name = none) (hget : Members.get? ms name = some v)
    (hv : v ≠ .null) : ∃ text, v = .string text ∧ textMember? ms name = some text := by
  rw [textFault?, hget] at hfault
  rw [textMember?, hget]
  cases v with
  | string text => exact ⟨text, rfl, rfl⟩
  | null => exact absurd rfl hv
  | _ => cases hfault

/-- Members that agree but for the derived ones are read as the same document but for these. -/
theorem ofMembers_of_agree {ms ms' : Members} {doc : Document} (h : ofMembers ms = .ok doc)
    (hagree : ∀ name, name ∉ derivedNames → Members.get? ms' name = Members.get? ms name)
    (hfaults : ∀ name ∈ derivedNames, textFault? ms' name = none) :
    ofMembers ms' = .ok { doc with
      dp := textMember? ms' "dp", dq := textMember? ms' "dq", qi := textMember? ms' "qi" } := by
  have hnil := (ofMembers_eq_ok h).1
  rw [faults_eq_nil] at hnil
  have hnil' : faults ms' = [] := by
    rw [faults_eq_nil]
    constructor
    · rw [requiredTextFault?, hagree "kty" (by decide)]
      exact hnil.1
    · intro name hname
      by_cases hderived : name ∈ derivedNames
      · exact hfaults name hderived
      · rw [textFault?, hagree name hderived]
        exact hnil.2 name hname
  have htext (name : String) (hname : name ∉ derivedNames) :
      textMember? ms' name = textMember? ms name := by
    rw [textMember?, textMember?, hagree name hname]
  unfold ofMembers at h ⊢
  split at h
  · cases h
    rw [hnil', if_pos List.isEmpty_nil]
    simp only [htext "kty" (by decide), htext "crv" (by decide), htext "kid" (by decide),
      htext "use" (by decide), htext "alg" (by decide), htext "x" (by decide),
      htext "y" (by decide), htext "d" (by decide), htext "n" (by decide), htext "e" (by decide),
      htext "p" (by decide), htext "q" (by decide)]
  · cases h

end Document

namespace WebKey

open Document (derivedNames)

/-- Only documents under the group `RSA` are read as RSA keys. -/
theorem group_of_rsa {doc : Document} {k : RsaKey} (h : keyOf doc = .ok (.rsa k)) :
    doc.kty = "RSA" := by
  by_contra hgroup
  rw [keyOf, if_neg hgroup] at h
  split at h
  · unfold curveKey at h
    split at h
    · cases h
    · split at h
      · cases h
      · have hkey := reportRefusal_eq_ok.mp h
        split at hkey
        · obtain ⟨x, -, hkey⟩ := bind_eq_ok.mp hkey
          obtain ⟨k, -, hkey⟩ := bind_eq_ok.mp hkey
          obtain ⟨d, -, hkey⟩ := bind_eq_ok.mp hkey
          split at hkey
          · cases hkey
          · obtain ⟨pair, -, hkey⟩ := bind_eq_ok.mp hkey
            split at hkey <;> cases hkey
        · obtain ⟨x, -, hkey⟩ := bind_eq_ok.mp hkey
          obtain ⟨k, -, hkey⟩ := bind_eq_ok.mp hkey
          split at hkey
          · cases hkey
          · obtain ⟨seed, -, hkey⟩ := bind_eq_ok.mp hkey
            obtain ⟨pair, -, hkey⟩ := bind_eq_ok.mp hkey
            split at hkey <;> cases hkey
        · obtain ⟨x, -, hkey⟩ := bind_eq_ok.mp hkey
          obtain ⟨y, -, hkey⟩ := bind_eq_ok.mp hkey
          obtain ⟨-, hkey⟩ := guard_eq_ok.mp hkey
          obtain ⟨k, -, hkey⟩ := bind_eq_ok.mp hkey
          obtain ⟨d, -, hkey⟩ := bind_eq_ok.mp hkey
          split at hkey
          · cases hkey
          · obtain ⟨pair, -, hkey⟩ := bind_eq_ok.mp hkey
            split at hkey <;> cases hkey
  · cases h

/-- The document spells the numbers of a private key, as far as the key has them. -/
structure SpellsNumbers (doc : Document) (k : RsaKey) : Prop where
  publicNumbers : rsaNumbers doc.withoutPrivate = .ok k.publicPart
  d : optionalNumber "d" doc.d = .ok k.d
  p : optionalNumber "p" doc.p = .ok k.p
  q : optionalNumber "q" doc.q = .ok k.q
  derived : ∀ name ∈ derivedNames, optionalNumber name (doc.derived name) = .ok (k.derived name)

/-- The numbers read from a document are exactly those it spells, the derived ones computed where
they are left out. -/
theorem rsaNumbers_eq_ok_iff {doc : Document} {k : RsaKey} {d : Int} (hd : k.d = some d) :
    rsaNumbers doc = .ok k ↔ SpellsNumbers doc k := by
  constructor
  · intro h
    have hpublic := (rsaNumbers_eq_ok h).1
    obtain ⟨n, hn, h⟩ := bind_eq_ok.mp h
    obtain ⟨e, he, h⟩ := bind_eq_ok.mp h
    obtain ⟨d', hd', h⟩ := bind_eq_ok.mp h
    cases d' with
    | none =>
      cases h
      cases hd
    | some d' =>
      obtain ⟨p, hp, h⟩ := bind_eq_ok.mp h
      obtain ⟨q, hq, h⟩ := bind_eq_ok.mp h
      obtain ⟨dp, hdp, h⟩ := bind_eq_ok.mp h
      obtain ⟨dq, hdq, h⟩ := bind_eq_ok.mp h
      obtain ⟨qi, hqi, h⟩ := bind_eq_ok.mp h
      cases h
      refine ⟨hpublic, hd', hp, hq, ?_⟩
      simp only [derivedNames, List.forall_mem_cons]
      exact ⟨hdp, hdq, hqi, by simp⟩
  · rintro ⟨hpublic, hd', hp, hq, hderived⟩
    obtain ⟨n, hn, hpublic⟩ := bind_eq_ok.mp hpublic
    obtain ⟨e, he, hpublic⟩ := bind_eq_ok.mp hpublic
    simp only [derivedNames, List.forall_mem_cons] at hderived
    obtain ⟨hdp, hdq, hqi, -⟩ := hderived
    obtain ⟨n', e', _, p, q, dp, dq, qi⟩ := k
    cases hd
    cases hpublic
    unfold rsaNumbers
    rw [show required "n" doc.n = .ok n from hn, ok_bind,
      show required "e" doc.e = .ok e from he, ok_bind, hd', ok_bind]
    dsimp only
    rw [hp, ok_bind, hq, ok_bind, show optionalNumber "dp" doc.dp = .ok dp from hdp, ok_bind,
      show optionalNumber "dq" doc.dq = .ok dq from hdq, ok_bind,
      show optionalNumber "qi" doc.qi = .ok qi from hqi]
    rfl

/-- The document spells the numbers of a key, all but derived ones. -/
def SpellsPartOf (doc : Document) (whole : RsaKey.Complete) : Prop :=
  ∃ k, SpellsNumbers doc k ∧ k.PartOf whole

theorem exists_text_of_private {doc : Document} {k : RsaKey} {d : Int}
    (h : keyOf doc = .ok (.rsa k)) (hd : k.d = some d) : ∃ text, doc.d = some text := by
  rw [keyOf, if_pos (group_of_rsa h)] at h
  obtain ⟨given, hgiven, h⟩ := bind_eq_ok.mp h
  obtain ⟨k', haccepted, h⟩ := bind_eq_ok.mp h
  cases h
  rw [← Option.ne_none_iff_exists']
  intro hnone
  obtain ⟨n, -, hgiven⟩ := bind_eq_ok.mp hgiven
  obtain ⟨e, -, hgiven⟩ := bind_eq_ok.mp hgiven
  rw [hnone] at hgiven
  cases hgiven
  rw [RsaKey.d_eq_none_of_accepted rfl (reportRefusal_eq_ok.mp haccepted)] at hd
  cases hd

/-- A document under the group `RSA` with a private exponent spells a part of the key that it is
read as. -/
theorem exists_whole_of_keyOf {doc : Document} {key : Key} {text : String}
    (h : keyOf doc = .ok key) (hgroup : doc.kty = "RSA") (hd : doc.d = some text) :
    ∃ whole : RsaKey.Complete, whole.Sound ∧ SpellsPartOf doc whole ∧ key = .rsa whole.toKey := by
  rw [keyOf, if_pos hgroup] at h
  obtain ⟨given, hgiven, h⟩ := bind_eq_ok.mp h
  obtain ⟨k, haccepted, h⟩ := bind_eq_ok.mp h
  cases h
  obtain ⟨bs, -, hd'⟩ := (rsaNumbers_eq_ok hgiven).2 text hd
  obtain ⟨whole, hsound, hpart, rfl⟩ :=
    RsaKey.exists_whole_of_accepted hd' (reportRefusal_eq_ok.mp haccepted)
  exact ⟨whole, hsound, ⟨given, (rsaNumbers_eq_ok_iff hd').mp hgiven, hpart⟩, rfl⟩

theorem keyOf_of_spellsPartOf {doc : Document} {whole : RsaKey.Complete}
    (h : SpellsPartOf doc whole) (hsound : whole.Sound) (hd : 1 < whole.d)
    (hgroup : doc.kty = "RSA") : keyOf doc = .ok (.rsa whole.toKey) := by
  obtain ⟨k, hspells, hpart⟩ := h
  rw [keyOf, if_pos hgroup, rsaKey, (rsaNumbers_eq_ok_iff hpart.d).mpr hspells, ok_bind,
    hpart.accepted_eq hsound hd]
  rfl

/-- A document may lack derived numbers that another one has. -/
theorem SpellsPartOf.of_less {doc : Document} {whole : RsaKey.Complete} (h : SpellsPartOf doc whole)
    {dp dq qi : Option String} (hdp : dp = none ∨ dp = doc.dp) (hdq : dq = none ∨ dq = doc.dq)
    (hqi : qi = none ∨ qi = doc.qi) :
    SpellsPartOf { doc with dp := dp, dq := dq, qi := qi } whole := by
  obtain ⟨k, hspells, hpart⟩ := h
  have hless (name : String) (hname : name ∈ derivedNames) {text : Option String}
      (htext : text = none ∨ text = doc.derived name) : ∃ number,
        optionalNumber name text = .ok number ∧ ∀ m, number = some m → k.derived name = some m := by
    obtain rfl | rfl := htext
    · exact ⟨none, rfl, by simp⟩
    · exact ⟨k.derived name, hspells.derived name hname, fun m hm => hm⟩
  obtain ⟨dp', hdp', hdpk⟩ := hless "dp" (by decide) hdp
  obtain ⟨dq', hdq', hdqk⟩ := hless "dq" (by decide) hdq
  obtain ⟨qi', hqi', hqik⟩ := hless "qi" (by decide) hqi
  refine ⟨{ k with dp := dp', dq := dq', qi := qi' },
    ⟨hspells.publicNumbers, hspells.d, hspells.p, hspells.q, ?_⟩,
    ⟨hpart.n, hpart.e, hpart.d, hpart.p, hpart.q, fun name m hm => hpart.derived name m ?_⟩⟩
  · simp only [derivedNames, List.forall_mem_cons]
    exact ⟨hdp', hdq', hqi', by simp⟩
  · unfold RsaKey.derived at hm
    split at hm
    · exact hdpk m hm
    · exact hdqk m hm
    · exact hqik m hm
    · cases hm

/-- Documents that differ in derived numbers alone are parts of one key at most. -/
theorem SpellsPartOf.unique {doc : Document} {whole whole' : RsaKey.Complete}
    {dp dq qi : Option String} (h : SpellsPartOf doc whole) (hsound : whole.Sound)
    (h' : SpellsPartOf { doc with dp := dp, dq := dq, qi := qi } whole') (hsound' : whole'.Sound) :
    whole = whole' := by
  obtain ⟨k, hspells, hpart⟩ := h
  obtain ⟨k', hspells', hpart'⟩ := h'
  have hpublic : k.publicPart = k'.publicPart :=
    Except.ok.inj (hspells.publicNumbers.symm.trans hspells'.publicNumbers)
  have hn : k.n = k'.n := congrArg (·.n) hpublic
  have he : k.e = k'.e := congrArg (·.e) hpublic
  have hd : k.d = k'.d := Except.ok.inj (hspells.d.symm.trans hspells'.d)
  have hp : k.p = k'.p := Except.ok.inj (hspells.p.symm.trans hspells'.p)
  have hq : k.q = k'.q := Except.ok.inj (hspells.q.symm.trans hspells'.q)
  rw [hpart.n, hpart'.n] at hn
  rw [hpart.e, hpart'.e] at he
  rw [hpart.d, hpart'.d] at hd
  rw [hpart.p, hpart'.p] at hp
  rw [hpart.q, hpart'.q] at hq
  exact hsound.ext hsound' hn he (Option.some.inj hd) (Option.some.inj hp) (Option.some.inj hq)

/-- The value is a text that spells the number. -/
def SpellsNumber (v : Json) (m : Nat) : Prop :=
  ∃ text bs, v = .string text ∧ Base64.decodeUnpadded .link text.toList = .ok bs ∧
    Bytes.toNat bs = m

/-- A derived member that is there spells the number that the key has. -/
theorem SpellsPartOf.spellsNumber {ms : Members} {doc : Document} {whole : RsaKey.Complete}
    (hdoc : Document.ofMembers ms = .ok doc) (h : SpellsPartOf doc whole) {name : String}
    (hname : name ∈ derivedNames) {v : Json} (hget : Members.get? ms name = some v)
    (hv : v ≠ .null) : ∃ m : Nat, SpellsNumber v m ∧ whole.toKey.derived name = some (m : Int) := by
  obtain ⟨hfaults, hderived⟩ := Document.ofMembers_eq_ok hdoc
  have hfault :=
    (Document.faults_eq_nil.mp hfaults).2 name (Document.derivedNames_subset name hname)
  obtain ⟨text, rfl, htext⟩ := Document.textMember?_of_textFault? hfault hget hv
  obtain ⟨k, hspells, hpart⟩ := h
  have hnumber := hspells.derived name hname
  rw [hderived name hname, htext] at hnumber
  obtain ⟨bs, hbs, hnumber⟩ := bind_eq_ok.mp hnumber
  exact ⟨_, ⟨text, bs, rfl, decodeMember_eq_ok.mp hbs, rfl⟩,
    hpart.derived name _ (Except.ok.inj hnumber).symm⟩

/-- Under the group `RSA` only the encoding can be wrong. -/
theorem failsOnly_ofChecked_rsa {checked : Except (List FieldFault) Document}
    (hgroup : ∀ doc, checked = .ok doc → doc.kty = "RSA") :
    FailsOnly Failure.OfEncoding (ofChecked checked) := by
  cases checked with
  | error faults => exact failsOnly_ofReason rfl _
  | ok doc =>
    intro f hf
    have hkey := ofDocument_eq_error.mp hf
    rw [keyOf, if_pos (hgroup doc rfl)] at hkey
    exact failsOnly_rsaKey doc f hkey

/-- The second object has the members of the first, but derived ones may be absent or null. -/
def LeavesOut (ms ms' : Members) : Prop :=
  ∀ name, Members.get? ms' name = Members.get? ms name ∨
    name ∈ derivedNames ∧ (Members.get? ms' name = none ∨ Members.get? ms' name = some .null)

theorem ofMembers_of_leavesOut {ms ms' : Members} {doc : Document} (hless : LeavesOut ms ms')
    (h : Document.ofMembers ms = .ok doc) : ∃ dp dq qi, (dp = none ∨ dp = doc.dp) ∧
      (dq = none ∨ dq = doc.dq) ∧ (qi = none ∨ qi = doc.qi) ∧
      Document.ofMembers ms' = .ok { doc with dp := dp, dq := dq, qi := qi } := by
  obtain ⟨hfaults, hderived⟩ := Document.ofMembers_eq_ok h
  have htext (name : String) (hname : name ∈ derivedNames) :
      Json.textMember? ms' name = none ∨ Json.textMember? ms' name = doc.derived name := by
    rw [hderived name hname, Json.textMember?, Json.textMember?]
    obtain hsame | ⟨-, hnone | hnull⟩ := hless name
    · exact Or.inr (by rw [hsame])
    · exact Or.inl (by rw [hnone])
    · exact Or.inl (by rw [hnull])
  refine ⟨_, _, _, htext "dp" (by decide), htext "dq" (by decide), htext "qi" (by decide),
    Document.ofMembers_of_agree h (fun name hname => (hless name).resolve_right fun h => hname h.1)
      fun name hname => ?_⟩
  rw [Json.textFault?]
  obtain hsame | ⟨-, hnone | hnull⟩ := hless name
  · rw [hsame]
    exact (Document.faults_eq_nil.mp hfaults).2 name (Document.derivedNames_subset name hname)
  · rw [hnone]
  · rw [hnull]

/-- If two objects differ in derived members alone and both are read, they spell the same number
wherever both spell one. -/
theorem exists_same_number {ms ms' : Members} {doc : Document} {whole : RsaKey.Complete}
    {dp dq qi : Option String} {text name : String} {u v : Json} {w : WebKey}
    (hdoc : Document.ofMembers ms = .ok doc) (hpart : SpellsPartOf doc whole) (hsound : whole.Sound)
    (hgroup : doc.kty = "RSA") (hd : doc.d = some text)
    (hdoc' : Document.ofMembers ms' = .ok { doc with dp := dp, dq := dq, qi := qi })
    (h : ofDocument { doc with dp := dp, dq := dq, qi := qi } = .ok w) (hname : name ∈ derivedNames)
    (hu : Members.get? ms name = some u) (hu0 : u ≠ .null) (hv : Members.get? ms' name = some v)
    (hv0 : v ≠ .null) : ∃ m, SpellsNumber u m ∧ SpellsNumber v m := by
  obtain ⟨whole', hsound', hpart', -⟩ := exists_whole_of_keyOf (ofDocument_eq_ok h).1 hgroup hd
  have hsame := hpart.unique hsound hpart' hsound'
  obtain ⟨m, hm, hnumber⟩ := hpart.spellsNumber hdoc hname hu hu0
  obtain ⟨m', hm', hnumber'⟩ := hpart'.spellsNumber hdoc' hname hv hv0
  rw [hsame, hnumber'] at hnumber
  obtain rfl : m' = m := by exact_mod_cast Option.some.inj hnumber
  exact ⟨m', hm, hm'⟩

/-- The derived numbers of a private RSA key never change it. A document that is read is read as the
same web key without any of them, unless its exponent is 1, from which none is computed. With a
value in the place of one that does not spell the same number, it is refused for its encoding,
whichever others it leaves out. -/
theorem derived_numbers_optional {ms : Members} {w : WebKey} {k : RsaKey} {d : Int}
    (h : ofJson (.object ms) = .ok w) (hkey : w.key = .rsa k) (hd : k.d = some d) :
    (k.dp.isSome ∧ k.dq.isSome ∧ k.qi.isSome) ∧
    (1 < d → ∀ ms', LeavesOut ms ms' → ofJson (.object ms') = .ok w) ∧
    ∀ (ms' : Members) (name : String) (u v : Json), name ∈ derivedNames →
      (∀ other, other ≠ name → Members.get? ms' other = Members.get? ms other) →
      Members.get? ms name = some u → u ≠ .null → Members.get? ms' name = some v → v ≠ .null →
      (¬∃ m, SpellsNumber u m ∧ SpellsNumber v m) →
      ∃ e, ofJson (.object ms') = .error (.conversion e) ∧ e.kind = .invalidEncoding := by
  simp only [ofJson_object] at h ⊢
  obtain ⟨doc, hdoc⟩ : ∃ doc, Document.ofMembers ms = .ok doc := by
    cases hdoc : Document.ofMembers ms with
    | error faults =>
      rw [hdoc] at h
      cases h
    | ok doc => exact ⟨doc, rfl⟩
  rw [hdoc] at h
  obtain ⟨hread, hw⟩ := ofDocument_eq_ok h
  rw [hkey] at hread
  have hgroup := group_of_rsa hread
  obtain ⟨text, htext⟩ := exists_text_of_private hread hd
  obtain ⟨whole, hsound, hpart, hwhole⟩ := exists_whole_of_keyOf hread hgroup htext
  cases hwhole
  cases hd
  refine ⟨⟨rfl, rfl, rfl⟩, fun hlt ms' hless => ?_, ?_⟩
  · obtain ⟨dp, dq, qi, hdp, hdq, hqi, hdoc'⟩ := ofMembers_of_leavesOut hless hdoc
    have hread' := keyOf_of_spellsPartOf (hpart.of_less hdp hdq hqi) hsound hlt hgroup
    rw [hdoc', ofChecked, ofDocument_of_keyOf hread', hw, hkey]
  · intro ms' name u v hname hothers hu hu0 hv hv0 hdiffer
    -- If the other object is a document at all, it is the same one but for derived members.
    have hdoc' (doc' : Document) (h' : Document.ofMembers ms' = .ok doc') :
        ∃ dp dq qi, doc' = { doc with dp := dp, dq := dq, qi := qi } := by
      have hfaults := Document.faults_eq_nil.mp (Document.ofMembers_eq_ok h').1
      have hagree := Document.ofMembers_of_agree hdoc
        (fun other hother => hothers other fun heq => hother (heq ▸ hname))
        fun other hother => hfaults.2 other (Document.derivedNames_subset other hother)
      exact ⟨_, _, _, Except.ok.inj (h'.symm.trans hagree)⟩
    have hfails : FailsOnly Failure.OfEncoding (ofChecked (Document.ofMembers ms')) := by
      refine failsOnly_ofChecked_rsa fun doc' h' => ?_
      obtain ⟨dp, dq, qi, rfl⟩ := hdoc' doc' h'
      exact hgroup
    cases hresult : ofChecked (Document.ofMembers ms') with
    | error f =>
      obtain ⟨e, rfl, he⟩ := hfails f hresult
      exact ⟨e, rfl, he⟩
    | ok w' =>
      cases h' : Document.ofMembers ms' with
      | error faults =>
        rw [h'] at hresult
        cases hresult
      | ok doc' =>
        rw [h'] at hresult
        obtain ⟨dp, dq, qi, rfl⟩ := hdoc' doc' h'
        exact absurd
          (exists_same_number hdoc hpart hsound hgroup htext h' hresult hname hu hu0 hv hv0) hdiffer

/-- The key of the primes 11 and 5 is read without two of its derived numbers. The third one may not
be 4 in the place of 3 then. -/
theorem small_key_without_derived :
    let start : Members := [("kty", .string "RSA"), ("n", .string "Nw"), ("e", .string "Aw"),
      ("d", .string "Gw"), ("p", .string "Cw"), ("q", .string "BQ")]
    let w : WebKey := ⟨.rsa ⟨55, 3, some 27, some 11, some 5, some 7, some 3, some 9⟩, "RSA", none,
      none, none, none⟩
    ofJson (.object (start ++
      [("dq", .string "Aw"), ("dp", .string "Bw"), ("qi", .string "CQ")])) = .ok w ∧
    ofJson (.object (start ++ [("dq", .string "Aw"), ("qi", .null)])) = .ok w ∧
    ∃ e, ofJson (.object (start ++ [("dq", .string "BA"), ("qi", .null)])) =
      .error (.conversion e) ∧ e.kind = .invalidEncoding := by
  intro start w
  have hwhole : ofJson (.object (start ++
      [("dq", .string "Aw"), ("dp", .string "Bw"), ("qi", .string "CQ")])) = .ok w := by cbv
  have hless : LeavesOut
      (start ++ [("dq", .string "Aw"), ("dp", .string "Bw"), ("qi", .string "CQ")])
      (start ++ [("dq", .string "Aw"), ("qi", .null)]) := by
    intro name
    by_cases hqi : name = "qi"
    · subst hqi
      exact Or.inr ⟨by decide, Or.inr rfl⟩
    · by_cases hdp : name = "dp"
      · subst hdp
        exact Or.inr ⟨by decide, Or.inl rfl⟩
      · exact Or.inl (by simp [start, Members.get?, Ne.symm hqi, Ne.symm hdp])
  have hread : ofJson (.object (start ++ [("dq", .string "Aw"), ("qi", .null)])) = .ok w :=
    (derived_numbers_optional hwhole rfl rfl).2.1 (by decide) _ hless
  refine ⟨hwhole, hread, ?_⟩
  refine (derived_numbers_optional hread rfl rfl).2.2 _ "dq" (.string "Aw") (.string "BA")
    (by decide) (fun other hother => ?_) rfl (by simp) rfl (by simp) ?_
  · simp [start, Members.get?, Ne.symm hother]
  · rintro ⟨m, ⟨text, bs, htext, hbs, hm⟩, text', bs', htext', hbs', hm'⟩
    cases htext
    cases htext'
    have hthree : Base64.decodeUnpadded .link "Aw".toList = .ok [3] := by rfl
    have hfour : Base64.decodeUnpadded .link "BA".toList = .ok [4] := by rfl
    cases hthree.symm.trans hbs
    cases hfour.symm.trans hbs'
    rw [← hm] at hm'
    exact absurd hm' (by decide)

end WebKey

end WebKeys
