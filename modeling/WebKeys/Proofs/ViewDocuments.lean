import WebKeys.Proofs.JsonGrammar
import WebKeys.Proofs.PublicView

/-!
# Documents of flat views

A view has one text of its own and many documents that are read as it. What a document says is a
matter of seven names (`PublicView.DenotedBy`), each of which may be absent or null or has the value
that the view has; nothing else that can be written in JSON makes a difference.

* `ofMembers_eq_ok_iff`: a document is read as the view that it denotes, and refused if it denotes
  none.
* `denotedBy_of_perm`: order and other members do not matter.
* `documents_of_views`: the text of a view is read as the view, and belongs to no other.
-/

namespace WebKeys.PublicView

open Json

variable {ms ns : Members} {name : String}

/-! ## What a document says -/

/-- A text that is not set, or is. -/
inductive SaysText (ms : Members) (name : String) : Option String → Prop
  | absent (h : Members.get? ms name = none) : SaysText ms name none
  | null (h : Members.get? ms name = some .null) : SaysText ms name none
  | text {s : String} (h : Members.get? ms name = some (.string s)) : SaysText ms name (some s)

/-- Bytes that are not set, or are, in any text of base 64 that is read as them. -/
inductive SaysBytes (ms : Members) (name : String) : Option Bytes → Prop
  | absent (h : Members.get? ms name = none) : SaysBytes ms name none
  | null (h : Members.get? ms name = some .null) : SaysBytes ms name none
  | bytes {s : String} {bs : Bytes} (h : Members.get? ms name = some (.string s))
      (hs : Base64.decode .standard s.toList = .ok bs) : SaysBytes ms name (some bs)

/-- What the members say of the view, each under its name. -/
structure DenotedBy (v : PublicView) (ms : Members) : Prop where
  kid : SaysText ms "kid" v.kid
  x : SaysBytes ms "x" v.x
  y : SaysBytes ms "y" v.y
  n : SaysBytes ms "n" v.n
  e : SaysBytes ms "e" v.e
  curve : SaysText ms "curve" v.curve
  group : SaysText ms "type" v.group

theorem saysText_iff {value : Option String} :
    SaysText ms name value ↔ textFault? ms name = none ∧ textMember? ms name = value := by
  unfold textFault? textMember?
  constructor
  · rintro (h | h | h) <;> rw [h] <;> exact ⟨rfl, rfl⟩
  · rintro ⟨hfault, hmember⟩
    split at hfault
    · next h =>
      rw [h] at hmember
      exact hmember ▸ .absent h
    · next h =>
      rw [h] at hmember
      exact hmember ▸ .null h
    · next s h =>
      rw [h] at hmember
      exact hmember ▸ .text h
    · cases hfault

theorem saysBytes_iff {value : Option Bytes} :
    SaysBytes ms name value ↔ bytesFault? ms name = none ∧ bytesMember? ms name = value := by
  unfold bytesFault? bytesMember? textMember?
  constructor
  · rintro (h | h | ⟨h, hs⟩) <;> rw [h]
    · exact ⟨rfl, rfl⟩
    · exact ⟨rfl, rfl⟩
    · simp [hs, Except.toOption]
  · rintro ⟨hfault, hmember⟩
    split at hfault
    · next h =>
      rw [h] at hmember
      exact hmember ▸ .absent h
    · next h =>
      rw [h] at hmember
      exact hmember ▸ .null h
    · next s h =>
      rw [h] at hmember
      split at hfault
      · next bs hs =>
        simp only [Option.bind_some, hs, Except.toOption] at hmember
        exact hmember ▸ .bytes h hs
      · cases hfault
    · cases hfault

theorem faults_eq_nil_iff : faults ms = [] ↔ textFault? ms "kid" = none ∧
    bytesFault? ms "x" = none ∧ bytesFault? ms "y" = none ∧ bytesFault? ms "n" = none ∧
    bytesFault? ms "e" = none ∧ textFault? ms "curve" = none ∧ textFault? ms "type" = none := by
  rw [faults, List.filterMap_eq_nil_iff]
  simp only [List.forall_mem_cons, List.not_mem_nil, false_imp_iff, implies_true, and_true, id_eq]

/-- Members are read as a view exactly when they denote it. -/
theorem ofMembers_eq_ok_iff {v : PublicView} : ofMembers ms = .ok v ↔ v.DenotedBy ms := by
  obtain ⟨kid, x, y, n, e, curve, group⟩ := v
  have hdenoted : DenotedBy ⟨kid, x, y, n, e, curve, group⟩ ms ↔
      SaysText ms "kid" kid ∧ SaysBytes ms "x" x ∧ SaysBytes ms "y" y ∧ SaysBytes ms "n" n ∧
        SaysBytes ms "e" e ∧ SaysText ms "curve" curve ∧ SaysText ms "type" group :=
    ⟨fun ⟨h₁, h₂, h₃, h₄, h₅, h₆, h₇⟩ => ⟨h₁, h₂, h₃, h₄, h₅, h₆, h₇⟩,
      fun ⟨h₁, h₂, h₃, h₄, h₅, h₆, h₇⟩ => ⟨h₁, h₂, h₃, h₄, h₅, h₆, h₇⟩⟩
  rw [hdenoted, saysText_iff, saysText_iff, saysText_iff, saysBytes_iff, saysBytes_iff,
    saysBytes_iff, saysBytes_iff, ofMembers]
  split
  · next hnil =>
    have hfaults := faults_eq_nil_iff.mp (List.isEmpty_iff.mp hnil)
    simp only [Except.ok.injEq, PublicView.mk.injEq, hfaults, true_and]
  · next hne =>
    simp only [reduceCtorEq, false_iff]
    rintro ⟨⟨h₁, -⟩, ⟨h₂, -⟩, ⟨h₃, -⟩, ⟨h₄, -⟩, ⟨h₅, -⟩, ⟨h₆, -⟩, h₇, -⟩
    exact hne (List.isEmpty_iff.mpr (faults_eq_nil_iff.mpr ⟨h₁, h₂, h₃, h₄, h₅, h₆, h₇⟩))

/-! ## Order and other members -/

/-- The names that a view has members under. -/
def names : List String := ["kid", "x", "y", "n", "e", "curve", "type"]

theorem SaysText.congr {value : Option String} (h : SaysText ms name value)
    (heq : Members.get? ns name = Members.get? ms name) : SaysText ns name value := by
  rcases h with h | h | h
  · exact .absent (heq.trans h)
  · exact .null (heq.trans h)
  · exact .text (heq.trans h)

theorem SaysBytes.congr {value : Option Bytes} (h : SaysBytes ms name value)
    (heq : Members.get? ns name = Members.get? ms name) : SaysBytes ns name value := by
  rcases h with h | h | ⟨h, hs⟩
  · exact .absent (heq.trans h)
  · exact .null (heq.trans h)
  · exact .bytes (heq.trans h) hs

theorem DenotedBy.congr {v : PublicView} (h : v.DenotedBy ms)
    (heq : ∀ name ∈ names, Members.get? ns name = Members.get? ms name) : v.DenotedBy ns where
  kid := h.kid.congr (heq _ (by decide))
  x := h.x.congr (heq _ (by decide))
  y := h.y.congr (heq _ (by decide))
  n := h.n.congr (heq _ (by decide))
  e := h.e.congr (heq _ (by decide))
  curve := h.curve.congr (heq _ (by decide))
  group := h.group.congr (heq _ (by decide))

theorem denotedBy_of_perm {v : PublicView} {extra : Members} (h : (ms ++ extra).Perm ns)
    (hnames : (ns.map (·.1)).Nodup) (hextra : ∀ m ∈ extra, m.1 ∉ names) :
    v.DenotedBy ns ↔ v.DenotedBy ms := by
  have heq : ∀ name ∈ names, Members.get? ns name = Members.get? ms name := by
    intro name hname
    have hother : Members.get? extra name = none := by
      refine Members.get?_eq_none.mpr fun m hm heq => hextra m hm ?_
      rw [heq]
      exact hname
    rw [Members.get?_of_perm h.symm hnames, Members.get?_append, hother, Option.none_or]
  exact ⟨fun h => h.congr fun name hname => (heq name hname).symm, fun h => h.congr heq⟩

/-! ## Documents -/

/-- A text is read as a view exactly when it is an object that denotes it. -/
theorem ofJsonText_eq_ok_iff {v : PublicView} {bs : Bytes} : ofJsonText bs = .ok v ↔
    ∃ ms, readBytes? bs = some (.object ms) ∧ v.DenotedBy ms := by
  unfold ofJsonText documentText
  cases hread : readBytes? bs with
  | none => simp [bind, Except.bind]
  | some w =>
    cases w with
    | object ms =>
      show ofMembers ms = .ok v ↔ _
      rw [ofMembers_eq_ok_iff]
      exact ⟨fun h => ⟨ms, rfl, h⟩, fun ⟨ms', heq, h⟩ => by cases heq; exact h⟩
    | _ => simp [asObject, bind, Except.bind]

/-- A document in any layout, with any escapes and white space, is read as the view that its members
denote. -/
theorem ofJsonText_of_textOf {v : PublicView} {before cs after : List Char} (hbefore : Gap before)
    (h : TextOf Text.longestNumeral deepest (.object ms) cs) (hafter : Gap after) :
    ofJsonText (Utf8.encode (before ++ (cs ++ after))) = .ok v ↔ v.DenotedBy ms := by
  have hread : readBytes? (Utf8.encode (before ++ (cs ++ after))) = some (.object ms) := by
    rw [readBytes?, Utf8.decode?_encode]
    exact readWithin?_of_textOf hbefore h hafter
  rw [ofJsonText_eq_ok_iff, hread]
  constructor
  · rintro ⟨ms', heq, h⟩
    cases heq
    exact h
  · exact fun h => ⟨ms, rfl, h⟩

/-- Every view is read from its text, and its text is that of no other view. What a document is read
as is settled by the members that it has under seven names, in whatever order and layout and among
whatever others; and what it is read as is read again from its own text. -/
theorem documents_of_views :
    (∀ v : PublicView, ofJsonText (Utf8.encode v.toJson.toList) = .ok v) ∧
    (∀ v w : PublicView, v.toJson = w.toJson ↔ v = w) ∧
    (∀ bs (v : PublicView), ofJsonText bs = .ok v →
      ofJsonText (Utf8.encode v.toJson.toList) = .ok v) ∧
    (∀ ms before cs after (v : PublicView), Gap before →
      TextOf Text.longestNumeral deepest (.object ms) cs → Gap after →
      (ofJsonText (Utf8.encode (before ++ (cs ++ after))) = .ok v ↔ v.DenotedBy ms)) ∧
    ∀ ms extra ns (v : PublicView), (ms ++ extra).Perm ns → (ns.map (·.1)).Nodup →
      (∀ m ∈ extra, m.1 ∉ names) → (v.DenotedBy ns ↔ v.DenotedBy ms) := by
  refine ⟨ofJsonText_toJson, fun v w => ⟨fun h => ?_, fun h => by rw [h]⟩,
    fun bs v _ => ofJsonText_toJson v,
    fun ms before cs after v hbefore h hafter => ofJsonText_of_textOf hbefore h hafter,
    fun ms extra ns v h hnames hextra => denotedBy_of_perm h hnames hextra⟩
  have hread := ofJsonText_toJson v
  rw [h, ofJsonText_toJson w] at hread
  exact (Except.ok.inj hread).symm

/-- Blanks, an escape, a member that is null and one of another name make no difference. -/
theorem loose_document_read :
    let v : PublicView := { kid := some "k" }
    let cs := "\x7b\"a\":null , \"kid\" :\"\\u006b\"\x7d\n".toList
    ofJsonText (Utf8.encode cs) = .ok v ∧ ofJsonText (Utf8.encode v.toJson.toList) = .ok v := by
  intro v cs
  obtain ⟨-, -, hagain, htext, horder⟩ := documents_of_views
  have hline : Gap ['\n'] := by simp [Gap, isSpace]
  have hplain {c : Char} (h : c = 'a' ∨ c = 'k' ∨ c = 'i' ∨ c = 'd') : CharText c [c] := by
    rcases h with rfl | rfl | rfl | rfl <;> exact .plain (by decide) (by decide) (by decide)
  have hk : StringText ['k'] ("\\u006b".toList ++ []) := .cons (.unit ⟨rfl, rfl⟩) .nil
  have ha : StringText ['a'] ['a'] := .cons (hplain (by decide)) .nil
  have hkid : StringText ['k', 'i', 'd'] ['k', 'i', 'd'] :=
    .cons (hplain (by decide)) (.cons (hplain (by decide)) (.cons (hplain (by decide)) .nil))
  have hmembers : MembersText Text.longestNumeral 199 [("a", .null), ("kid", .string "k")]
      "\"a\":null , \"kid\" :\"\\u006b\"".toList :=
    .cons gap_nil ha gap_nil gap_nil .null gap_blank
      (.last gap_blank hkid gap_blank gap_nil (.string hk) gap_nil)
  have hkidOnly : v.DenotedBy [("kid", .string "k")] :=
    ⟨.text rfl, .absent rfl, .absent rfl, .absent rfl, .absent rfl, .absent rfl, .absent rfl⟩
  have hdenoted : v.DenotedBy [("a", .null), ("kid", .string "k")] :=
    (horder [("kid", .string "k")] [("a", .null)] _ v (List.Perm.swap _ _ _) (by decide)
      (by decide)).mpr hkidOnly
  have hread : ofJsonText (Utf8.encode cs) = .ok v :=
    (htext _ [] _ ['\n'] v gap_nil (.object hmembers) hline).mpr hdenoted
  exact ⟨hread, hagain _ v hread⟩

end WebKeys.PublicView
