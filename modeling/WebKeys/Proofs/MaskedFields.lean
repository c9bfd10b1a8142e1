import WebKeys.Proofs.Masking

/-!
# Masking keeps the rest

Fields are looked up by the names that lead to them, from object to object (`valueAt`); a list is a
value like a text, with no fields of its own. Masking commutes with the look-up as long as no name
on the way is sensitive (`valueAt_maskValue`), and under the first sensitive name it leaves one text
and nothing below (`valueAt_maskValue_of_sensitive`, `plain_of_valueAt_maskValue`).

* `Sensitive`: which names are sensitive, said by one list of names (`isSensitive_iff`).
* `sensitive_congr`: in ASCII, capital letters make no difference.
* `only_sensitive_values_masked`: what masking changes, and what it does not.
-/

namespace WebKeys.Log

open Json Text

/-! ## Sensitive names -/

/-- All names that are sensitive by themselves. -/
def sensitiveFields : List String := sensitiveNames ++ sensitiveWords

/-- A name is sensitive, whatever its case, if it is one of the list or contains one of the list
that has more than two letters. -/
def Sensitive (name : String) : Prop :=
  lowercase name ∈ sensitiveFields ∨
    ∃ word ∈ sensitiveFields, 2 < word.length ∧ word.toList <:+: (lowercase name).toList

theorem occursIn_iff {word cs : List Char} : occursIn word cs = true ↔ word <:+: cs := by
  induction cs with
  | nil => simp [occursIn]
  | cons c cs ih => simp [occursIn, ih, List.infix_cons_iff]

theorem length_of_mem_sensitiveNames : ∀ word ∈ sensitiveNames, word.length ≤ 2 := by decide

theorem length_of_mem_sensitiveWords : ∀ word ∈ sensitiveWords, 2 < word.length := by decide

/-- A name is masked exactly when it contains a sensitive word, in whatever case. -/
theorem isSensitive_iff {name : String} : isSensitive name = true ↔ Sensitive name := by
  simp only [isSensitive, Bool.or_eq_true, List.contains_iff_mem, List.any_eq_true, occursIn_iff]
  constructor
  · rintro (hname | ⟨word, hword, hinfix⟩)
    · exact .inl (List.mem_append_left _ hname)
    · have hlong := length_of_mem_sensitiveWords word hword
      exact .inr ⟨word, List.mem_append_right _ hword, hlong, hinfix⟩
  · rintro (hname | ⟨word, hword, hlong, hinfix⟩)
    · rcases List.mem_append.mp hname with hname | hname
      · exact .inl hname
      · exact .inr ⟨_, hname, List.infix_refl _⟩
    · rcases List.mem_append.mp hword with hword | hword
      · have := length_of_mem_sensitiveNames word hword
        omega
      · exact .inr ⟨word, hword, hinfix⟩

theorem isSensitive_eq_false {name : String} (h : ¬Sensitive name) : isSensitive name = false := by
  rw [Bool.eq_false_iff, Ne, isSensitive_iff]
  exact h

/-! ## Case -/

theorem lowercaseAfter_of_ascii {cs : List Char} (h : ∀ c ∈ cs, c.toNat < 128)
    (before : List Char) : lowercaseAfter before cs = cs.map Char.toLower := by
  induction cs generalizing before with
  | nil => rfl
  | cons c cs ih =>
    rw [List.forall_mem_cons] at h
    have hsigma : c ≠ '\u03A3' := by
      rintro rfl
      exact absurd h.1 (by decide)
    have hform : smallForm c = [c.toLower] := if_pos h.1
    rw [lowercaseAfter, if_neg hsigma, hform, ih h.2]
    rfl

theorem lowercase_of_ascii {s : String} (h : ∀ c ∈ s.toList, c.toNat < 128) :
    lowercase s = String.ofList (s.toList.map Char.toLower) := by
  rw [lowercase, lowercaseAfter_of_ascii h]

theorem toLower_lt_128_iff {c : Char} : c.toLower.toNat < 128 ↔ c.toNat < 128 := by
  unfold Char.toLower
  split
  · next hupper =>
    have hle : c.toNat ≤ 90 := UInt32.le_iff_toNat_le.mp hupper.2
    change (c.toNat + 32) % 2 ^ 32 < 128 ↔ c.toNat < 128
    omega
  · rfl

/-- Names of the same letters in large or small are sensitive alike. -/
theorem sensitive_congr {name other : String} (hascii : ∀ c ∈ name.toList, c.toNat < 128)
    (hcase : other.toList.map Char.toLower = name.toList.map Char.toLower) :
    Sensitive other ↔ Sensitive name := by
  have hother : ∀ c ∈ other.toList, c.toNat < 128 := by
    intro c hc
    rw [← toLower_lt_128_iff]
    have hmem := List.mem_map_of_mem (f := Char.toLower) hc
    rw [hcase] at hmem
    obtain ⟨d, hd, hlower⟩ := List.mem_map.mp hmem
    rw [← hlower, toLower_lt_128_iff]
    exact hascii d hd
  rw [Sensitive, Sensitive, lowercase_of_ascii hascii, lowercase_of_ascii hother, hcase]

/-! ## Fields by their paths -/

/-- The value that names lead to, from object to object. -/
def valueAt : List String → Json → Option Json
  | [], v => some v
  | name :: path, .object ms => (Members.get? ms name).bind (valueAt path)
  | _ :: _, _ => none

/-- No name on the path is sensitive. -/
def Plain (path : List String) : Prop := ∀ name ∈ path, ¬Sensitive name

theorem valueAt_append (path rest : List String) (v : Json) :
    valueAt (path ++ rest) v = (valueAt path v).bind (valueAt rest) := by
  induction path generalizing v with
  | nil => rfl
  | cons name path ih =>
    cases v with
    | object ms =>
      rw [List.cons_append, valueAt, valueAt, Option.bind_assoc]
      congr 1
      funext w
      exact ih w
    | _ => rfl

/-- Along a path of plain names, masking reaches the value and masks it there. -/
theorem valueAt_maskValue {path : List String} (h : Plain path) (v : Json) :
    valueAt path (maskValue v) = (valueAt path v).map maskValue := by
  induction path generalizing v with
  | nil => rfl
  | cons name path ih =>
    rw [Plain, List.forall_mem_cons] at h
    cases v with
    | object ms =>
      rw [maskValue, valueAt, valueAt, get?_mask_of_not_sensitive (isSensitive_eq_false h.1),
        Option.map_bind, Option.bind_map]
      congr 1
      funext w
      exact ih h.2 w
    | _ => rfl

theorem valueAt_singleton_maskValue {name : String} (h : Sensitive name) (v : Json) :
    valueAt [name] (maskValue v) = (valueAt [name] v).map fun _ => redacted := by
  cases v with
  | object ms =>
    rw [maskValue, valueAt, valueAt, get?_mask, isSensitive_iff.mpr h]
    cases Members.get? ms name <;> rfl
  | _ => rfl

mutual
/-- Masking twice is masking once. -/
theorem maskValue_maskValue : ∀ v : Json, maskValue (maskValue v) = maskValue v
  | .object ms => congrArg Json.object (mask_mask ms)
  | .null | .bool _ | .int _ | .float _ | .string _ | .array _ => rfl

theorem mask_mask : ∀ ms : Members, mask (mask ms) = mask ms
  | [] => rfl
  | (name, v) :: ms => by
    rw [mask, mask, mask_mask ms]
    by_cases hname : isSensitive name = true
    · rw [if_pos hname, if_pos hname]
    · rw [if_neg hname, if_neg hname, maskValue_maskValue v]
end

/-- A value that is left under some names stood there before, with no sensitive name above it. -/
theorem plain_of_valueAt_maskValue {path : List String} {v w : Json}
    (h : valueAt path (maskValue v) = some w) :
    Plain path.dropLast ∧ ∃ u, valueAt path v = some u := by
  induction path generalizing v with
  | nil => exact ⟨by simp [Plain], v, rfl⟩
  | cons name path ih =>
    cases v with
    | object ms =>
      rw [maskValue, valueAt, get?_mask, Option.bind_map] at h
      obtain ⟨u, hu, h⟩ := Option.bind_eq_some_iff.mp h
      rw [valueAt, hu, Option.bind_some]
      by_cases hname : isSensitive name = true
      · -- Nothing can be looked up below the text that took the place of the value.
        cases path with
        | nil => exact ⟨by simp [Plain], u, rfl⟩
        | cons next path =>
          rw [Function.comp_apply, if_pos hname] at h
          cases h
      · rw [Function.comp_apply, if_neg hname] at h
        obtain ⟨hplain, hfound⟩ := ih h
        refine ⟨?_, hfound⟩
        cases path with
        | nil => simp [Plain]
        | cons next path =>
          rw [List.dropLast_cons_cons, Plain, List.forall_mem_cons]
          exact ⟨fun hsensitive => hname (isSensitive_iff.mpr hsensitive), hplain⟩
    | _ => cases h

theorem valueAt_maskValue_of_sensitive {path : List String} (h : Plain path) {name : String}
    (hname : Sensitive name) (v : Json) : valueAt (path ++ [name]) (maskValue v) =
      (valueAt (path ++ [name]) v).map fun _ => redacted := by
  rw [valueAt_append, valueAt_append, valueAt_maskValue h, Option.bind_map, Option.map_bind]
  congr 1
  funext w
  exact valueAt_singleton_maskValue hname w

/-- Only under a sensitive name does the text appear that was not there before. -/
theorem valueAt_maskValue_eq_redacted_iff {path : List String} (h : Plain path) {name : String}
    {v w : Json} (hw : valueAt (path ++ [name]) v = some w) (hne : w ≠ redacted) :
    valueAt (path ++ [name]) (maskValue v) = some redacted ↔ Sensitive name := by
  constructor
  · intro hredacted
    by_contra hname
    have hplain : Plain (path ++ [name]) := by
      intro n hn
      rcases List.mem_append.mp hn with hn | hn
      · exact h n hn
      · rw [List.mem_singleton.mp hn]
        exact hname
    rw [valueAt_maskValue hplain, hw, Option.map_some, Option.some_inj] at hredacted
    exact hne ((maskValue_eq_iff (by simp [redacted])).mp hredacted)
  · intro hname
    rw [valueAt_maskValue_of_sensitive h hname, hw, Option.map_some]

/-- Masking keeps the names of every object that it reaches under no sensitive name, and their
order, and every value there that is no object; it replaces the values of sensitive names and of no
others, and what it leaves stood there before. Masking again changes nothing. What is sensitive is a
matter of the list: its short names count as whole names only, and letters count in either case. -/
theorem only_sensitive_values_masked (fields : Members) :
    (∀ path, Plain path →
      (∀ inner, valueAt path (.object fields) = some (.object inner) →
        ∃ kept, valueAt path (.object (mask fields)) = some (.object kept) ∧
          kept.map (·.1) = inner.map (·.1)) ∧
      (∀ v, (∀ inner, v ≠ .object inner) →
        (valueAt path (.object (mask fields)) = some v ↔
          valueAt path (.object fields) = some v)) ∧
      ∀ name v, valueAt (path ++ [name]) (.object fields) = some v → v ≠ redacted →
        (valueAt (path ++ [name]) (.object (mask fields)) = some redacted ↔ Sensitive name)) ∧
    (∀ path v, valueAt path (.object (mask fields)) = some v →
      Plain path.dropLast ∧ ∃ u, valueAt path (.object fields) = some u) ∧
    mask (mask fields) = mask fields ∧
    (∀ name, lowercase name ∉ sensitiveFields →
      (∀ word ∈ sensitiveFields, word.toList <:+: (lowercase name).toList → word.length ≤ 2) →
        ¬Sensitive name) ∧
    ∀ name other, (∀ c ∈ name.toList, c.toNat < 128) →
      other.toList.map Char.toLower = name.toList.map Char.toLower →
        (Sensitive other ↔ Sensitive name) := by
  refine ⟨?_, ?_, mask_mask fields, ?_, ?_⟩
  · intro path hpath
    have hmasked : valueAt path (.object (mask fields)) =
        (valueAt path (.object fields)).map maskValue := valueAt_maskValue hpath (.object fields)
    refine ⟨?_, ?_, ?_⟩
    · intro inner hinner
      refine ⟨mask inner, ?_, names_mask inner⟩
      rw [hmasked, hinner]
      rfl
    · intro v hv
      rw [hmasked]
      cases valueAt path (.object fields) with
      | none => simp
      | some u => simp [maskValue_eq_iff hv]
    · intro name v hv hne
      exact valueAt_maskValue_eq_redacted_iff hpath hv hne
  · intro path v hv
    exact plain_of_valueAt_maskValue hv
  · rintro name hwhole hshort (hname | ⟨word, hword, hlong, hinfix⟩)
    · exact hwhole hname
    · have := hshort word hword hinfix
      omega
  · intro name other hascii hcase
    exact sensitive_congr hascii hcase

/-- A private member in an object, under its name in large letters, a token as a whole object, and a
name that contains one of the short ones. -/
theorem jwk_fields_masked :
    let fields : Members := [("jwk", .object [("kty", .string "EC"), ("D", .string "B")]),
      ("api_token", .object [("x", .int 1)]), ("duration_ms", .int 3)]
    (∃ kept, valueAt ["jwk"] (.object (mask fields)) = some (.object kept) ∧
      kept.map (·.1) = ["kty", "D"]) ∧
    valueAt ["jwk", "kty"] (.object (mask fields)) = some (.string "EC") ∧
    valueAt ["jwk", "D"] (.object (mask fields)) = some redacted ∧
    ¬Sensitive "duration_ms" ∧ (Sensitive "D" ↔ Sensitive "d") := by
  intro fields
  have hplain (names : List String) (h : ∀ n ∈ names, isSensitive n = false) : Plain names := by
    intro n hn hsensitive
    rw [← isSensitive_iff, h n hn] at hsensitive
    cases hsensitive
  have hjwk := hplain ["jwk"] (by decide +kernel)
  have hkty := hplain ["jwk", "kty"] (by decide +kernel)
  have hd : Sensitive "D" := isSensitive_iff.mp (by decide +kernel)
  obtain ⟨hpaths, -, -, hshort, hcase⟩ := only_sensitive_values_masked fields
  obtain ⟨hlevels, -, hfields⟩ := hpaths ["jwk"] hjwk
  refine ⟨hlevels _ rfl, ?_, ?_, ?_, ?_⟩
  · exact ((hpaths ["jwk", "kty"] hkty).2.1 (.string "EC") nofun).mpr rfl
  · exact (hfields "D" (.string "B") rfl (by simp [redacted])).mpr hd
  · apply hshort "duration_ms" (by decide +kernel)
    simp only [← occursIn_iff]
    decide +kernel
  · exact hcase "d" "D" (by simp) rfl

end WebKeys.Log
