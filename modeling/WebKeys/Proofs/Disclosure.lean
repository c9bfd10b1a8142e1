import WebKeys.Session
import WebKeys.Proofs.PublicForms

/-!
# Public outputs know nothing of the private part

Two runs of the same operation, on web keys that agree in everything public, cannot be told apart:
an output that is meant to be public is that of the public part (`members_false`,
`publicBytes_publicPart`, `view_publicPart`, `encodeKey_publicPart`), and the public part is all
that the two have in common.

* `Key.SamePublic`, `WebKey.SamePublic`: equal but for private numbers, of which each may have any
  or none.
* `public_outputs_agree`: equal outputs, equal failures, equal entries in the log, and no private
  member among them.
-/

namespace WebKeys

open Outcome

/-- The same public part, each with private numbers of its own or without any. -/
inductive Key.SamePublic : Key → Key → Prop
  | ec (c : Curve) (x y : Int) (form : Option DerForm) (d d' : Option Int) :
      SamePublic (.ec ⟨c, x, y, d, form⟩) (.ec ⟨c, x, y, d', form⟩)
  | okp (c : Curve) (x : Bytes) (d d' : Option Bytes) : SamePublic (.okp ⟨c, x, d⟩) (.okp ⟨c, x, d'⟩)
  | rsa (n e : Int) (d p q dp dq qi d' p' q' dp' dq' qi' : Option Int) :
      SamePublic (.rsa ⟨n, e, d, p, q, dp, dq, qi⟩) (.rsa ⟨n, e, d', p', q', dp', dq', qi'⟩)
  | bls (x : Bytes) (d d' : Option Int) : SamePublic (.bls ⟨x, d⟩) (.bls ⟨x, d'⟩)

theorem Key.SamePublic.publicPart_eq {k k' : Key} (h : SamePublic k k') :
    k.publicPart = k'.publicPart := by
  cases h <;> rfl

namespace WebKey

/-- Web keys that differ in private numbers alone. -/
structure SamePublic (a b : WebKey) : Prop where
  key : a.key.SamePublic b.key
  group : a.group = b.group
  curve : a.curve = b.curve
  kid : a.kid = b.kid
  use : a.use = b.use
  alg : a.alg = b.alg

theorem SamePublic.publicPart_eq {a b : WebKey} (h : SamePublic a b) :
    a.publicPart = b.publicPart := by
  rw [publicPart, publicPart, h.key.publicPart_eq, h.group, h.curve, h.kid, h.use, h.alg]

/-! ## Each output is that of the public part -/

theorem toJson_false (w : WebKey) : w.toJson false = w.publicPart.toJson := by
  rw [toJson, toJson, members_false]

theorem publicBytes_publicPart (w : WebKey) : w.publicPart.publicBytes = w.publicBytes := by
  obtain ⟨k, group, curve, kid, use, alg⟩ := w
  cases k <;> rfl

theorem publicPart_publicPart (w : WebKey) : w.publicPart.publicPart = w.publicPart := by
  rw [publicPart, publicPart, Key.publicPart_publicPart]

theorem isPrivate_publicPart (w : WebKey) : w.publicPart.isPrivate = false :=
  Key.isPrivate_publicPart w.key

/-- The public part of a web key under its own label is put together like any other. -/
theorem create_publicPart {w : WebKey} (h : (w.group, w.curve) = w.key.label) :
    create w.key.publicPart (some w.group, w.curve) w.kid w.use w.alg = .ok w.publicPart := by
  have hgroup : w.group = w.key.label.1 := congrArg Prod.fst h
  have hcurve : w.curve = w.key.label.2 := congrArg Prod.snd h
  rw [create, Key.label_publicPart, ← hgroup, ← hcurve, if_pos rfl, publicPart]

/-! ## Names of members -/

theorem names_of_minimalMembers {ms : List (String × Option Int)} {written : List (String × String)}
    (h : minimalMembers ms = .ok written) : ∀ m ∈ written, m.1 ∈ ms.map (·.1) := by
  induction ms generalizing written with
  | nil =>
    cases h
    simp
  | cons m ms ih =>
    obtain ⟨name, value⟩ := m
    cases value with
    | none =>
      intro m hm
      exact List.mem_cons_of_mem _ (ih h m hm)
    | some n =>
      obtain ⟨text, -, h⟩ := bind_eq_ok.mp h
      obtain ⟨rest, hrest, h⟩ := bind_eq_ok.mp h
      cases h
      intro m hm
      rcases List.mem_cons.mp hm with rfl | hm
      · exact List.mem_cons_self
      · exact List.mem_cons_of_mem _ (ih hrest m hm)

/-- Public members have public names. -/
theorem names_of_publicMembers {k : Key} {ms : List (String × String)}
    (h : publicMembers k = .ok ms) : ∀ m ∈ ms, m.1 ∈ ["x", "y", "n", "e"] := by
  cases k with
  | ec k =>
    obtain ⟨x, -, h⟩ := bind_eq_ok.mp h
    obtain ⟨y, -, h⟩ := bind_eq_ok.mp h
    cases h
    simp
  | okp k =>
    cases h
    simp
  | bls k =>
    cases h
    simp
  | rsa k =>
    intro m hm
    have hname := names_of_minimalMembers h m hm
    simp only [List.map_cons, List.map_nil, List.mem_cons, List.not_mem_nil, or_false] at hname ⊢
    exact Or.inr (Or.inr hname)

theorem name_of_optionalMember {name : String} {value : Option String} {m : String × String}
    (h : m ∈ optionalMember name value) : m.1 = name := by
  cases value with
  | none => cases h
  | some s =>
    rw [List.mem_singleton.mp h]

/-- No member of the public document holds a private part. -/
theorem names_of_members_false {w : WebKey} {ms : List (String × String)}
    (h : w.members false = .ok ms) : ∀ m ∈ ms, m.1 ∉ Document.privateNames := by
  have hnames : ∀ name ∈ ["x", "y", "n", "e"], name ∉ Document.privateNames := by decide
  obtain ⟨publicOnes, hpublic, h⟩ := bind_eq_ok.mp h
  obtain ⟨privateOnes, hprivate, h⟩ := bind_eq_ok.mp h
  cases hprivate
  cases h
  intro m hm
  simp only [List.append_nil, List.cons_append, List.mem_cons, List.mem_append] at hm
  rcases hm with rfl | ((((hm | hm) | hm) | hm) | hm)
  · show "kty" ∉ Document.privateNames
    decide
  · rw [name_of_optionalMember hm]
    decide
  · exact hnames _ (names_of_publicMembers hpublic m hm)
  · rw [name_of_optionalMember hm]
    decide
  · rw [name_of_optionalMember hm]
    decide
  · rw [name_of_optionalMember hm]
    decide

/-- Nor is there one in the text of the public document, read as JSON. -/
theorem get?_of_toJson_false {w : WebKey} {text : String} (h : w.toJson false = .ok text) :
    ∃ ms, Json.readBytes? (Utf8.encode text.toList) = some (.object ms) ∧
      ∀ name ∈ Document.privateNames, Members.get? ms name = none := by
  obtain ⟨ms, hms, h⟩ := bind_eq_ok.mp h
  cases h
  refine ⟨Json.texts ms, ?_, fun name hname => ?_⟩
  · rw [documentOf_eq]
    exact Json.readBytes?_toText ms
  · rw [Members.get?_eq_none]
    intro _ hmem
    obtain ⟨m, hm, rfl⟩ := List.mem_map.mp hmem
    rintro rfl
    exact names_of_members_false hms m hm hname

end WebKey

/-! ## Views and bytes -/

namespace PublicView

theorem names_of_members (v : PublicView) : ∀ m ∈ v.members, m.1 ∉ Document.privateNames := by
  intro m hm
  obtain ⟨⟨name, value⟩, hfield, hm⟩ := List.mem_filterMap.mp hm
  obtain ⟨text, -, rfl⟩ := Option.map_eq_some_iff.mp hm
  have hnames : ∀ name ∈ ["kid", "x", "y", "n", "e", "curve", "type"],
      name ∉ Document.privateNames := by decide
  exact hnames name (List.mem_map_of_mem (f := Prod.fst) hfield)

end PublicView

namespace Conversion

theorem view_publicPart (w : WebKey) : view (.webKey w.publicPart) = view (.webKey w) := by
  have hview : viewOf w.publicPart = viewOf w := by
    rw [viewOf, viewOf, WebKey.publicPart, Key.publicPart_publicPart]
  rw [view, view, viewOfCandidate, viewOfCandidate, hview]

theorem bytesOf_publicPart (preferred : Result DerForm) (w : WebKey) (tag : String) :
    bytesOf preferred (.webKey w.publicPart) tag = bytesOf preferred (.webKey w) tag := by
  unfold bytesOf
  cases lookup .encodeKey tag with
  | error f => rfl
  | ok t => rw [ok_bind, ok_bind, keyToEncode_webKey, keyToEncode_webKey, ok_bind, ok_bind,
      WebKey.publicPart, Key.publicPart_publicPart]

theorem asksPreference_publicPart (w : WebKey) (tag : String) :
    asksPreference (.webKey w.publicPart) tag = asksPreference (.webKey w) tag := by
  have hkey (t : KeyType) : w.key.publicPart.asksPreference t = w.key.asksPreference t := by
    cases w.key <;> rfl
  unfold asksPreference
  cases lookup .encodeKey tag with
  | error f => rfl
  | ok t => exact hkey t

end Conversion

theorem Session.encodeKey_publicPart (s : Session) (w : WebKey) (tag : String) :
    s.encodeKey (.webKey w.publicPart) tag = s.encodeKey (.webKey w) tag := by
  unfold Session.encodeKey
  rw [Conversion.asksPreference_publicPart]
  simp only [Conversion.encodeKey, Conversion.bytesOf_publicPart]

/-! ## Agreement -/

namespace WebKey

/-- Web keys that differ in private numbers alone, whatever these are, have the same public outputs:
document, text, public part, bytes, view, and the bytes for every key type in every session,
failures and log included. The public part is public for good, passes for a web key again, and is
published as the web key is without its private members, none of which stands in a document, in its
text or in a view. -/
theorem public_outputs_agree {a b : WebKey} (h : SamePublic a b) :
    (a.members false = b.members false ∧ a.toJson false = b.toJson false ∧
      a.publicPart = b.publicPart ∧ a.publicBytes = b.publicBytes ∧
      Conversion.view (.webKey a) = Conversion.view (.webKey b) ∧
      ∀ (s : Session) (tag : String), s.encodeKey (.webKey a) tag = s.encodeKey (.webKey b) tag) ∧
    (a.publicPart.publicPart = a.publicPart ∧ a.publicPart.isPrivate = false ∧
      a.publicPart.members = a.members false ∧ a.publicPart.toJson = a.toJson false ∧
      ((a.group, a.curve) = a.key.label →
        create a.key.publicPart (some a.group, a.curve) a.kid a.use a.alg = .ok a.publicPart)) ∧
    (∀ ms, a.members false = .ok ms → ∀ m ∈ ms, m.1 ∉ Document.privateNames) ∧
    (∀ text, a.toJson false = .ok text → ∃ ms,
      Json.readBytes? (Utf8.encode text.toList) = some (.object ms) ∧
        ∀ name ∈ Document.privateNames, Members.get? ms name = none) ∧
    ∀ v, (Conversion.view (.webKey a)).result = .ok v →
      ∀ m ∈ v.members, m.1 ∉ Document.privateNames := by
  have hpart := h.publicPart_eq
  refine ⟨⟨?_, ?_, hpart, ?_, ?_, fun s tag => ?_⟩, ⟨publicPart_publicPart a,
    isPrivate_publicPart a, (members_false a).symm, (toJson_false a).symm, create_publicPart⟩,
    fun ms hms => names_of_members_false hms, fun text htext => get?_of_toJson_false htext,
    fun v _ => v.names_of_members⟩
  · rw [members_false, hpart, ← members_false]
  · rw [toJson_false, hpart, ← toJson_false]
  · rw [← publicBytes_publicPart, hpart, publicBytes_publicPart]
  · rw [← Conversion.view_publicPart, hpart, Conversion.view_publicPart]
  · rw [← Session.encodeKey_publicPart, hpart, Session.encodeKey_publicPart]

/-- A key pair with all its numbers, and its public half with a stray prime. -/
theorem rsa_outputs_agree :
    let whole : WebKey := ⟨.rsa ⟨55, 3, some 27, some 11, some 5, some 7, some 3, some 9⟩, "RSA",
      none, some "id", none, none⟩
    let half : WebKey := ⟨.rsa ⟨55, 3, none, some 11, none, none, none, none⟩, "RSA", none,
      some "id", none, none⟩
    whole.isPrivate = true ∧ half.isPrivate = false ∧ whole.toJson false = half.toJson false ∧
      whole.publicBytes = half.publicBytes ∧
      ∀ s : Session, s.encodeKey (.webKey whole) "RSARS256" = s.encodeKey (.webKey half) "RSARS256" := by
  intro whole half
  obtain ⟨⟨-, htext, -, hbytes, -, hencoded⟩, -⟩ := public_outputs_agree (a := whole) (b := half)
    ⟨.rsa 55 3 _ _ _ _ _ _ _ _ _ _ _ _, rfl, rfl, rfl, rfl, rfl⟩
  exact ⟨rfl, rfl, htext, hbytes, fun s => hencoded s "RSARS256"⟩

end WebKey

end WebKeys
