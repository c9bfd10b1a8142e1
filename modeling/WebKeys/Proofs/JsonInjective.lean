import WebKeys.Json.Shown
import WebKeys.Proofs.JsonStrings
import WebKeys.Proofs.Outcome

/-!
# One line of JSON tells values apart

Followed by nothing, a comma or a closing bracket, the text of a value determines the value and what
follows it (`same_of_spaced`). The one thing that it does not tell is how a fraction was spelt:
`1.50` and `1.5` are kept by different digits and written alike.

* `Json.Same`: the same value, up to the spelling of fractions.
* `spaced_eq_iff`: the same value, the same line.
-/

namespace WebKeys

/-! ## The same value -/

/-- The same number, as far as its text tells. -/
def Decimal.Same : Decimal → Decimal → Prop
  | .finite s d e, .finite s' d' e' => (finite s d e).text = (finite s' d' e').text
  | x, y => x = y

theorem Decimal.Same.refl (x : Decimal) : x.Same x := by
  cases x <;> rfl

theorem Decimal.Same.text_eq {x y : Decimal} (h : x.Same y) : x.text = y.text := by
  cases x <;> cases y <;> first | exact h | exact congrArg Decimal.text h

namespace Json

mutual
/-- The same value, but for the spelling of fractions. -/
inductive Same : Json → Json → Prop
  | null : Same .null .null
  | bool (b : Bool) : Same (.bool b) (.bool b)
  | int (n : Int) : Same (.int n) (.int n)
  | float {x y : Decimal} (h : x.Same y) : Same (.float x) (.float y)
  | string (s : String) : Same (.string s) (.string s)
  | array {vs ws : List Json} (h : SameItems vs ws) : Same (.array vs) (.array ws)
  | object {ms ns : Members} (h : SameMembers ms ns) : Same (.object ms) (.object ns)

inductive SameItems : List Json → List Json → Prop
  | nil : SameItems [] []
  | cons {v w : Json} {vs ws : List Json} (hv : Same v w) (h : SameItems vs ws) :
      SameItems (v :: vs) (w :: ws)

inductive SameMembers : Members → Members → Prop
  | nil : SameMembers [] []
  | cons (name : String) {v w : Json} {ms ns : Members} (hv : Same v w) (h : SameMembers ms ns) :
      SameMembers ((name, v) :: ms) ((name, w) :: ns)
end

mutual
theorem Same.refl : ∀ v : Json, Same v v
  | .null => .null
  | .bool b => .bool b
  | .int n => .int n
  | .float x => .float (.refl x)
  | .string s => .string s
  | .array vs => .array (SameItems.refl vs)
  | .object ms => .object (SameMembers.refl ms)

theorem SameItems.refl : ∀ vs : List Json, SameItems vs vs
  | [] => .nil
  | v :: vs => .cons (Same.refl v) (SameItems.refl vs)

theorem SameMembers.refl : ∀ ms : Members, SameMembers ms ms
  | [] => .nil
  | (name, v) :: ms => .cons name (Same.refl v) (SameMembers.refl ms)
end

/-! ## The same texts -/

theorem decimalText_eq {x y : Decimal} (h : x.Same y) : decimalText x = decimalText y := by
  cases x <;> cases y <;> first | exact h | exact congrArg decimalText h

mutual
theorem Same.spaced_eq {v w : Json} : Same v w → spaced v = spaced w
  | .null => rfl
  | .bool _ => rfl
  | .int _ => rfl
  | .float h => by rw [spaced, spaced, decimalText_eq h]
  | .string _ => rfl
  | .array h => by rw [spaced, spaced, h.spaced_eq]
  | .object h => by rw [spaced, spaced, h.spaced_eq]

theorem SameItems.spaced_eq {vs ws : List Json} :
    SameItems vs ws → spacedItems vs = spacedItems ws
  | .nil => rfl
  | .cons hv h => by rw [spacedItems, spacedItems, hv.spaced_eq, h.spaced_eq]

theorem SameMembers.spaced_eq {ms ns : Members} :
    SameMembers ms ns → spacedMembers ms = spacedMembers ns
  | .nil => rfl
  | .cons name hv h => by rw [spacedMembers, spacedMembers, hv.spaced_eq, h.spaced_eq]
end

mutual
theorem Same.nested_eq {v w : Json} : Same v w → nested v = nested w
  | .null => rfl
  | .bool _ => rfl
  | .int _ => rfl
  | .float h => by rw [nested, nested, h.text_eq]
  | .string _ => rfl
  | .array h => by rw [nested, nested, h.nested_eq]
  | .object h => by rw [nested, nested, h.nested_eq]

theorem SameItems.nested_eq {vs ws : List Json} :
    SameItems vs ws → nestedItems vs = nestedItems ws
  | .nil => rfl
  | .cons hv h => by rw [nestedItems, nestedItems, hv.nested_eq, h.nested_eq]

theorem SameMembers.nested_eq {ms ns : Members} :
    SameMembers ms ns → nestedMembers ms = nestedMembers ns
  | .nil => rfl
  | .cons name hv h => by rw [nestedMembers, nestedMembers, hv.nested_eq, h.nested_eq]
end

theorem Same.shown_eq {v w : Json} (h : Same v w) : v.shown = w.shown := by
  cases h with
  | string s => rfl
  | null => rfl
  | bool b => rfl
  | int n => rfl
  | float h => exact (Same.float h).nested_eq
  | array h => exact (Same.array h).nested_eq
  | object h => exact (Same.object h).nested_eq

/-! ## Texts of numbers -/

theorem isDigit_of_mem_toString {n : Nat} {c : Char} (h : c ∈ (toString n).toList) :
    c.isDigit = true := by
  rw [Nat.toString_eq_repr, Nat.repr_eq_ofList_toDigits, String.toList_ofList] at h
  exact Nat.isDigit_of_mem_toDigits (by decide) (by decide) h

/-- A character of the text of a whole number. -/
def isIntegerChar (c : Char) : Bool := c.isDigit || c == '-'

/-- A character of the text of a fraction. -/
def isFractionChar (c : Char) : Bool := isIntegerChar c || c == '+' || c == '.' || c == 'e'

theorem isFractionChar_of_isDigit {c : Char} (h : c.isDigit = true) : isFractionChar c = true := by
  simp [isFractionChar, isIntegerChar, h]

/-- The text is that of a number, and not of a whole one. -/
structure IsFractionText (cs : List Char) : Prop where
  chars : ∀ c ∈ cs, isFractionChar c = true
  mark : ∃ c ∈ cs, isIntegerChar c = false

theorem isFractionText_positional {ds : List Char} (hds : ∀ c ∈ ds, c.isDigit = true)
    (point : Int) : IsFractionText (Decimal.positional ds point) := by
  have hdigits : ∀ c ∈ ds, isFractionChar c = true := fun c hc =>
    isFractionChar_of_isDigit (hds c hc)
  have hzeros (n : Nat) : ∀ c ∈ Decimal.zeros n, isFractionChar c = true := by
    intro c hc
    rw [List.eq_of_mem_replicate hc]
    decide
  unfold Decimal.positional
  repeat' split
  · refine ⟨?_, '.', by simp, by decide⟩
    intro c hc
    simp only [List.mem_cons, List.mem_append] at hc
    rcases hc with rfl | rfl | hc | hc
    · decide
    · decide
    · exact hzeros _ c hc
    · exact hdigits c hc
  · refine ⟨?_, '.', by simp, by decide⟩
    intro c hc
    simp only [List.mem_cons, List.mem_append] at hc
    rcases hc with hc | rfl | hc
    · exact hdigits c (List.mem_of_mem_take hc)
    · decide
    · exact hdigits c (List.mem_of_mem_drop hc)
  · refine ⟨?_, '.', by simp, by decide⟩
    intro c hc
    simp only [List.mem_cons, List.mem_append, List.not_mem_nil, or_false] at hc
    rcases hc with (hc | hc) | rfl | rfl
    · exact hdigits c hc
    · exact hzeros _ c hc
    · decide
    · decide

theorem isFractionText_scientific {ds : List Char} (hds : ∀ c ∈ ds, c.isDigit = true)
    (first : Int) : IsFractionText (Decimal.scientific ds first) := by
  have hexponent : ∀ c ∈ Decimal.exponentText first, isFractionChar c = true := by
    intro c hc
    unfold Decimal.exponentText at hc
    simp only [List.mem_cons, List.mem_append] at hc
    rcases hc with rfl | rfl | hc | hc
    · decide
    · split <;> decide
    · rw [List.eq_of_mem_replicate hc]
      decide
    · exact isFractionChar_of_isDigit (isDigit_of_mem_toString hc)
  have hmark : 'e' ∈ Decimal.exponentText first := by simp [Decimal.exponentText]
  unfold Decimal.scientific
  refine ⟨?_, 'e', List.mem_append_right _ hmark, by decide⟩
  intro c hc
  rcases List.mem_append.mp hc with hc | hc
  · cases ds with
    | nil => cases hc
    | cons d rest =>
      have hmantissa : c = '.' ∨ c ∈ d :: rest := by
        cases rest with
        | nil => exact Or.inr hc
        | cons d' rest => simpa [or_left_comm] using hc
      rcases hmantissa with rfl | hc
      · decide
      · exact isFractionChar_of_isDigit (hds c hc)
  · exact hexponent c hc

theorem isFractionText_finite (negative : Bool) (digits : Nat) (exponent : Int) :
    IsFractionText (Decimal.finite negative digits exponent).text.toList := by
  have hmagnitude : IsFractionText (Decimal.magnitudeText digits exponent) := by
    unfold Decimal.magnitudeText
    dsimp only
    repeat' split
    · refine ⟨?_, '.', by simp, by decide⟩
      rw [List.forall_mem_cons, List.forall_mem_cons, List.forall_mem_cons]
      exact ⟨by decide, by decide, by decide, by simp⟩
    · exact isFractionText_positional (fun c => isDigit_of_mem_toString) _
    · exact isFractionText_scientific (fun c => isDigit_of_mem_toString) _
  rw [Decimal.text, Decimal.signed, String.toList_ofList]
  split
  · refine ⟨?_, ?_⟩
    · intro c hc
      rcases List.mem_cons.mp hc with rfl | hc
      · decide
      · exact hmagnitude.chars c hc
    · obtain ⟨c, hc, hmark⟩ := hmagnitude.mark
      exact ⟨c, List.mem_cons_of_mem _ hc, hmark⟩
  · exact hmagnitude

theorem isIntegerChar_of_mem_toString {n : Int} {c : Char} (h : c ∈ (toString n).toList) :
    isIntegerChar c = true := by
  have hdigit {m : Nat} (h : c ∈ (toString m).toList) : isIntegerChar c = true := by
    simp [isIntegerChar, isDigit_of_mem_toString h]
  cases n with
  | ofNat m => exact hdigit h
  | negSucc m =>
    have hneg : (toString (Int.negSucc m)).toList = '-' :: (toString (m + 1)).toList := by
      show ("-" ++ toString (m + 1)).toList = _
      rw [String.toList_append]
      rfl
    rw [hneg] at h
    rcases List.mem_cons.mp h with rfl | h
    · decide
    · exact hdigit h

/-! ## Words and numbers -/

/-- A value whose text is a word or a number. -/
def isWord : Json → Bool
  | null | bool _ | int _ | float _ => true
  | _ => false

/-- A character of such a text. -/
def isWordChar (c : Char) : Bool := isFractionChar c || c.isAlpha

theorem isWordChar_of_isIntegerChar {c : Char} (h : isIntegerChar c = true) :
    isWordChar c = true := by
  simp [isWordChar, isFractionChar, h]

/-- A word that is no number. -/
inductive IsLiteral : Json → Prop
  | null : IsLiteral .null
  | bool (b : Bool) : IsLiteral (.bool b)
  | infinite (negative : Bool) : IsLiteral (.float (.infinite negative))
  | undefined : IsLiteral (.float .undefined)

/-- A word of letters, perhaps with a sign, one of them in no number. -/
theorem IsLiteral.chars {v : Json} (h : IsLiteral v) :
    (∀ c ∈ v.spaced, isWordChar c = true) ∧ ∃ c ∈ v.spaced, isFractionChar c = false := by
  have hword {cs : List Char} (h : cs.all isWordChar = true)
      (hmark : cs.any (fun c => !isFractionChar c) = true) :
      (∀ c ∈ cs, isWordChar c = true) ∧ ∃ c ∈ cs, isFractionChar c = false := by
    simpa using And.intro h hmark
  cases h with
  | null => exact hword (by decide) (by decide)
  | bool b => cases b <;> exact hword (by decide) (by decide)
  | infinite negative => cases negative <;> exact hword (by decide) (by decide)
  | undefined => exact hword (by decide) (by decide)

theorem IsLiteral.same {v w : Json} (hv : IsLiteral v) (hw : IsLiteral w)
    (h : v.spaced = w.spaced) : Same v w := by
  rcases hv with _ | (_ | _) | (_ | _) | _ <;> rcases hw with _ | (_ | _) | (_ | _) | _ <;>
    first | exact Same.refl _ | exact absurd h (by decide)

theorem word_cases {v : Json} (hv : v.isWord = true) :
    (∃ n, v = .int n) ∨ (∃ s d e, v = .float (.finite s d e)) ∨ IsLiteral v := by
  cases v with
  | null => exact Or.inr (Or.inr .null)
  | bool b => exact Or.inr (Or.inr (.bool b))
  | int n => exact Or.inl ⟨n, rfl⟩
  | float x =>
    cases x with
    | finite s d e => exact Or.inr (Or.inl ⟨s, d, e, rfl⟩)
    | infinite s => exact Or.inr (Or.inr (.infinite s))
    | undefined => exact Or.inr (Or.inr .undefined)
  | string s => cases hv
  | array vs => cases hv
  | object ms => cases hv

theorem isWordChar_of_mem_spaced {v : Json} (hv : v.isWord = true) :
    v.spaced ≠ [] ∧ ∀ c ∈ v.spaced, isWordChar c = true := by
  rcases word_cases hv with ⟨n, rfl⟩ | ⟨s, d, e, rfl⟩ | hliteral
  · refine ⟨?_, fun c hc => isWordChar_of_isIntegerChar (isIntegerChar_of_mem_toString hc)⟩
    cases n with
    | ofNat m =>
      show (toString m).toList ≠ []
      rw [Nat.toString_eq_repr, Nat.repr_eq_ofList_toDigits, String.toList_ofList]
      exact Nat.toDigits_ne_nil
    | negSucc m =>
      show ("-" ++ toString (m + 1)).toList ≠ []
      rw [String.toList_append]
      exact List.cons_ne_nil _ _
  · have htext := isFractionText_finite s d e
    obtain ⟨c, hc, -⟩ := htext.mark
    refine ⟨List.ne_nil_of_mem hc, fun c hc => ?_⟩
    rw [isWordChar, htext.chars c hc, Bool.true_or]
  · obtain ⟨hchars, c, hc, -⟩ := hliteral.chars
    exact ⟨List.ne_nil_of_mem hc, hchars⟩

/-- Whole numbers, fractions and other words are told apart by their characters. -/
theorem same_of_word {v w : Json} (hv : v.isWord = true) (hw : w.isWord = true)
    (h : v.spaced = w.spaced) : Same v w := by
  have hmark {cs ds : List Char} {p : Char → Bool} (heq : cs = ds)
      (hc : ∃ c ∈ cs, p c = false) (hd : ∀ c ∈ ds, p c = true) : False := by
    obtain ⟨c, hc, hp⟩ := hc
    rw [hd c (heq ▸ hc)] at hp
    cases hp
  have hinteger (n : Int) : ∀ c ∈ (int n).spaced, isIntegerChar c = true :=
    fun c => isIntegerChar_of_mem_toString
  have hwhole (n : Int) : ∀ c ∈ (int n).spaced, isFractionChar c = true := by
    intro c hc
    simp [isFractionChar, hinteger n c hc]
  rcases word_cases hv with ⟨n, rfl⟩ | ⟨s, d, e, rfl⟩ | hv <;>
    rcases word_cases hw with ⟨n', rfl⟩ | ⟨s', d', e', rfl⟩ | hw
  · rw [spaced, spaced, String.toList_inj] at h
    rw [Int.repr_injective h]
    exact Same.refl _
  · exact (hmark h.symm (isFractionText_finite s' d' e').mark (hinteger n)).elim
  · exact (hmark h.symm hw.chars.2 (hwhole n)).elim
  · exact (hmark h (isFractionText_finite s d e).mark (hinteger n')).elim
  · exact .float (String.toList_inj.mp h)
  · exact (hmark h.symm hw.chars.2 (isFractionText_finite s d e).chars).elim
  · exact (hmark h hv.chars.2 (hwhole n')).elim
  · exact (hmark h hv.chars.2 (isFractionText_finite s' d' e').chars).elim
  · exact hv.same hw h

/-! ## Texts in their places -/

/-- What may follow a value: nothing, or a character that is in no word. -/
def Follows (rest : List Char) : Prop := ∀ c ∈ rest.head?, isWordChar c = false

theorem follows_cons {c : Char} (h : isWordChar c = false) (rest : List Char) :
    Follows (c :: rest) := by
  rintro _ ⟨⟩
  exact h

theorem takeWhile_append {cs rest : List Char} (hcs : ∀ c ∈ cs, isWordChar c = true)
    (hrest : Follows rest) : (cs ++ rest).takeWhile isWordChar = cs := by
  rw [List.takeWhile_append_of_pos hcs]
  cases rest with
  | nil => simp
  | cons c rest => rw [List.takeWhile_cons_of_neg (by simp [hrest c rfl]), List.append_nil]

/-- The text of a value with parts or quotes starts with a bracket or a quote. -/
theorem head_of_not_word {v : Json} (hv : v.isWord = false) :
    ∃ c cs, v.spaced = c :: cs ∧ isWordChar c = false := by
  cases v with
  | string s => exact ⟨_, _, rfl, by decide⟩
  | array vs => exact ⟨_, _, rfl, by decide⟩
  | object ms => exact ⟨_, _, rfl, by decide⟩
  | _ => cases hv

/-- No value starts with the bracket that ends a list. -/
theorem head_spaced (v : Json) : ∃ c cs, v.spaced = c :: cs ∧ c ≠ ']' := by
  cases hv : v.isWord with
  | false =>
    cases v with
    | string s => exact ⟨_, _, rfl, by decide⟩
    | array vs => exact ⟨_, _, rfl, by decide⟩
    | object ms => exact ⟨_, _, rfl, by decide⟩
    | _ => cases hv
  | true =>
    obtain ⟨hne, hchars⟩ := isWordChar_of_mem_spaced hv
    obtain ⟨c, cs, hcs⟩ := List.exists_cons_of_ne_nil hne
    have hc := hchars c (by simp [hcs])
    refine ⟨c, cs, hcs, ?_⟩
    rintro rfl
    exact absurd hc (by decide)

theorem isWord_of_append {v w : Json} {r r' : List Char} (h : v.spaced ++ r = w.spaced ++ r')
    (hv : v.isWord = true) : w.isWord = true := by
  by_contra hw
  obtain ⟨hne, hchars⟩ := isWordChar_of_mem_spaced hv
  obtain ⟨c, cs, hcs⟩ := List.exists_cons_of_ne_nil hne
  obtain ⟨c', cs', hcs', hc'⟩ := head_of_not_word (Bool.not_eq_true _ ▸ hw)
  rw [hcs, hcs'] at h
  obtain ⟨rfl, -⟩ := List.cons.inj h
  exact Bool.false_ne_true (hc'.symm.trans (hchars c (by simp [hcs])))

theorem isWord_eq_false_of_append {v w : Json} {r r' : List Char}
    (h : v.spaced ++ r = w.spaced ++ r') (hv : v.isWord = false) : w.isWord = false := by
  by_contra hw
  rw [isWord_of_append h.symm (Bool.not_eq_false _ ▸ hw)] at hv
  cases hv

theorem same_of_word_append {v w : Json} {r r' : List Char} (hv : v.isWord = true)
    (hr : Follows r) (hr' : Follows r') (h : v.spaced ++ r = w.spaced ++ r') :
    Same v w ∧ r = r' := by
  have hw := isWord_of_append h hv
  have htext : v.spaced = w.spaced := by
    rw [← takeWhile_append (isWordChar_of_mem_spaced hv).2 hr, h,
      takeWhile_append (isWordChar_of_mem_spaced hw).2 hr']
  rw [htext] at h
  exact ⟨same_of_word hv hw htext, List.append_cancel_left h⟩

theorem stringWith_append {s t : String} {r r' : List Char}
    (h : stringWith asciiEscape s ++ r = stringWith asciiEscape t ++ r') : s = t ∧ r = r' := by
  simp only [stringWith, List.cons_append, List.append_assoc, List.nil_append, List.cons.injEq,
    true_and] at h
  have hread := stringFrom_escaped charText_asciiEscape s r
  rw [h, stringFrom_escaped charText_asciiEscape] at hread
  obtain ⟨rfl, rfl⟩ := Prod.mk.inj (Option.some.inj hread)
  exact ⟨rfl, rfl⟩

/-- The other items of a list, after the first. -/
def moreItems (vs : List Json) : List Char :=
  match vs with
  | [] => []
  | _ => [',', ' '] ++ joined [',', ' '] (spacedItems vs)

theorem joined_spacedItems_cons (v : Json) (vs : List Json) :
    joined [',', ' '] (spacedItems (v :: vs)) = v.spaced ++ moreItems vs := by
  cases vs <;> simp [spacedItems, joined, moreItems]

/-- The other members of an object, after the first. -/
def moreMembers (ms : Members) : List Char :=
  match ms with
  | [] => []
  | _ => [',', ' '] ++ joined [',', ' '] (spacedMembers ms)

theorem joined_spacedMembers_cons (name : String) (v : Json) (ms : Members) :
    joined [',', ' '] (spacedMembers ((name, v) :: ms)) =
      stringWith asciiEscape name ++ ':' :: ' ' :: (v.spaced ++ moreMembers ms) := by
  cases ms <;> simp [spacedMembers, joined, moreMembers]

theorem follows_moreItems (vs : List Json) (r : List Char) :
    Follows (moreItems vs ++ ']' :: r) := by
  cases vs <;> exact follows_cons (by decide) _

theorem follows_moreMembers (ms : Members) (r : List Char) :
    Follows (moreMembers ms ++ '\x7d' :: r) := by
  cases ms <;> exact follows_cons (by decide) _

mutual
/-- The text of a value is a prefix code. -/
theorem same_of_spaced : ∀ (v w : Json) {r r' : List Char}, Follows r → Follows r' →
    v.spaced ++ r = w.spaced ++ r' → Same v w ∧ r = r'
  | .null, w, _, _, hr, hr', h => same_of_word_append rfl hr hr' h
  | .bool b, w, _, _, hr, hr', h => same_of_word_append rfl hr hr' h
  | .int n, w, _, _, hr, hr', h => same_of_word_append rfl hr hr' h
  | .float x, w, _, _, hr, hr', h => same_of_word_append rfl hr hr' h
  | .string s, w, _, _, _, _, h => by
    have hw := isWord_eq_false_of_append h rfl
    cases w with
    | string t =>
      obtain ⟨rfl, hr⟩ := stringWith_append h
      exact ⟨.string s, hr⟩
    | array ws => exact absurd (List.cons.inj h).1 (by decide)
    | object ns => exact absurd (List.cons.inj h).1 (by decide)
    | _ => cases hw
  | .array vs, w, _, _, _, _, h => by
    have hw := isWord_eq_false_of_append h rfl
    cases w with
    | array ws =>
      simp only [spaced, List.cons_append, List.append_assoc, List.nil_append, List.cons.injEq,
        true_and] at h
      obtain ⟨hitems, hr⟩ := sameItems_of_spaced vs ws h
      exact ⟨.array hitems, hr⟩
    | string t => exact absurd (List.cons.inj h).1 (by decide)
    | object ns => exact absurd (List.cons.inj h).1 (by decide)
    | _ => cases hw
  | .object ms, w, _, _, _, _, h => by
    have hw := isWord_eq_false_of_append h rfl
    cases w with
    | object ns =>
      simp only [spaced, List.cons_append, List.append_assoc, List.nil_append, List.cons.injEq,
        true_and] at h
      obtain ⟨hmembers, hr⟩ := sameMembers_of_spaced ms ns h
      exact ⟨.object hmembers, hr⟩
    | string t => exact absurd (List.cons.inj h).1 (by decide)
    | array ws => exact absurd (List.cons.inj h).1 (by decide)
    | _ => cases hw

/-- The text of the items of an array tells them apart, wherever the array ends. -/
theorem sameItems_of_spaced : ∀ (vs ws : List Json) {r r' : List Char},
    joined [',', ' '] (spacedItems vs) ++ ']' :: r =
      joined [',', ' '] (spacedItems ws) ++ ']' :: r' → SameItems vs ws ∧ r = r'
  | [], [], _, _, h => ⟨.nil, (List.cons.inj h).2⟩
  | [], w :: ws, _, _, h => by
    obtain ⟨c, cs, hcs, hc⟩ := head_spaced w
    rw [joined_spacedItems_cons, hcs] at h
    exact absurd (List.cons.inj h).1.symm hc
  | v :: vs, [], _, _, h => by
    obtain ⟨c, cs, hcs, hc⟩ := head_spaced v
    rw [joined_spacedItems_cons, hcs] at h
    exact absurd (List.cons.inj h).1 hc
  | v :: vs, w :: ws, r, r', h => by
    rw [joined_spacedItems_cons, joined_spacedItems_cons, List.append_assoc, List.append_assoc] at h
    obtain ⟨hv, hmore⟩ :=
      same_of_spaced v w (follows_moreItems vs r) (follows_moreItems ws r') h
    cases vs with
    | nil =>
      cases ws with
      | nil => exact ⟨.cons hv .nil, (List.cons.inj hmore).2⟩
      | cons w' ws => exact absurd (List.cons.inj hmore).1 (by decide)
    | cons v' vs =>
      cases ws with
      | nil => exact absurd (List.cons.inj hmore).1 (by decide)
      | cons w' ws =>
        simp only [moreItems, List.cons_append, List.nil_append, List.cons.injEq,
          true_and] at hmore
        obtain ⟨hitems, hr⟩ := sameItems_of_spaced (v' :: vs) (w' :: ws) hmore
        exact ⟨.cons hv hitems, hr⟩

/-- The text of the members of an object tells them apart, wherever the object ends. -/
theorem sameMembers_of_spaced : ∀ (ms ns : Members) {r r' : List Char},
    joined [',', ' '] (spacedMembers ms) ++ '\x7d' :: r =
      joined [',', ' '] (spacedMembers ns) ++ '\x7d' :: r' → SameMembers ms ns ∧ r = r'
  | [], [], _, _, h => ⟨.nil, (List.cons.inj h).2⟩
  | [], (name, w) :: ns, _, _, h => by
    rw [joined_spacedMembers_cons] at h
    exact absurd (List.cons.inj h).1 (by decide)
  | (name, v) :: ms, [], _, _, h => by
    rw [joined_spacedMembers_cons] at h
    exact absurd (List.cons.inj h).1 (by decide)
  | (name, v) :: ms, (name', w) :: ns, r, r', h => by
    rw [joined_spacedMembers_cons, joined_spacedMembers_cons, List.append_assoc,
      List.append_assoc] at h
    obtain ⟨rfl, hrest⟩ := stringWith_append h
    simp only [List.cons_append, List.append_assoc, List.cons.injEq, true_and] at hrest
    obtain ⟨hv, hmore⟩ :=
      same_of_spaced v w (follows_moreMembers ms r) (follows_moreMembers ns r') hrest
    cases ms with
    | nil =>
      cases ns with
      | nil => exact ⟨.cons name hv .nil, (List.cons.inj hmore).2⟩
      | cons n ns => exact absurd (List.cons.inj hmore).1 (by decide)
    | cons m ms =>
      cases ns with
      | nil => exact absurd (List.cons.inj hmore).1 (by decide)
      | cons n ns =>
        simp only [moreMembers, List.cons_append, List.nil_append, List.cons.injEq,
          true_and] at hmore
        obtain ⟨hmembers, hr⟩ := sameMembers_of_spaced (m :: ms) (n :: ns) hmore
        exact ⟨.cons name hv hmembers, hr⟩
end

/-- Two values have the same line if and only if they are the same, up to the spelling of
fractions. -/
theorem spaced_eq_iff {v w : Json} : v.spaced = w.spaced ↔ Same v w := by
  constructor
  · intro h
    have hnone : Follows [] := by rintro _ ⟨⟩
    exact (same_of_spaced v w hnone hnone (congrArg (· ++ []) h)).1
  · exact Same.spaced_eq

theorem toText_eq_iff {v w : Json} : v.toText = w.toText ↔ Same v w := by
  rw [toText, toText, String.ofList_inj, spaced_eq_iff]

end Json

end WebKeys
