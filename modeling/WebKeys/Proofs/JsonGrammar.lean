import WebKeys.Proofs.JsonInjective
import WebKeys.Proofs.Utf8

/-!
# The grammar of JSON

Which texts stand for a value is said here without a reader: there may be white space wherever
JSON allows it, and each character of a string may be written as it is or as any of its escapes.
Every text of the grammar is read as its value, if its numerals and its nesting stay within the
limits. What is written for an object of texts is such a text, with or without blanks after its
commas and colons.

* `TextOf longest depth v cs`: the characters stand for the value, with no longer numeral and no
  deeper nesting.
* `value_of_textOf`: they are read as the value whatever follows.
* `readWithin?_of_textOf`: so is the whole text, with white space around it.
* `readBytes?_objectText`: so is an object of texts, as it was written.
-/

namespace WebKeys.Json

/-! ## Numbers -/

/-- A number before its point, without zeros in front. -/
structure WholeText (cs : List Char) : Prop where
  ne_nil : cs ≠ []
  digits : ∀ c ∈ cs, c.isDigit = true
  leading : cs = ['0'] ∨ cs.head? ≠ some '0'

/-- Digits with a point in front of them, or nothing. -/
inductive FractionText : List Char → List Char → Prop
  | absent : FractionText [] []
  | present {cs : List Char} (hne : cs ≠ []) (hdigits : ∀ c ∈ cs, c.isDigit = true) :
      FractionText cs ('.' :: cs)

/-- The sign of an exponent, which may be left out. -/
inductive SignText : Bool → List Char → Prop
  | absent : SignText false []
  | plus : SignText false ['+']
  | minus : SignText true ['-']

/-- An exponent, or nothing. -/
inductive ExponentText : Option Int → List Char → Prop
  | absent : ExponentText none []
  | present {e : Char} {negative : Bool} {sign cs : List Char} (he : e = 'e' ∨ e = 'E')
      (hsign : SignText negative sign) (hne : cs ≠ []) (hdigits : ∀ c ∈ cs, c.isDigit = true) :
      ExponentText (some (if negative then -digitsValue cs else digitsValue cs))
        (e :: (sign ++ cs))

/-- The value of a numeral by its parts: a whole number, if there is neither a fraction nor an
exponent. -/
def numeralValue (negative : Bool) (whole fraction : List Char) (exponent : Option Int) : Json :=
  if fraction.isEmpty && exponent.isNone then
    .int (if negative then -digitsValue whole else digitsValue whole)
  else .float (fractionValue negative (digitsValue (whole ++ fraction))
    (exponent.getD 0 - fraction.length))

/-- A numeral after its sign. -/
inductive NumeralText (longest : Nat) (negative : Bool) : Json → List Char → Prop
  | of {whole fraction fs es : List Char} {exponent : Option Int} (hwhole : WholeText whole)
      (hlength : whole.length + negative.toNat ≤ longest) (hfraction : FractionText fraction fs)
      (hexponent : ExponentText exponent es) :
      NumeralText longest negative (numeralValue negative whole fraction exponent)
        (whole ++ (fs ++ es))

/-- No digit comes first. -/
def NoDigit (rest : List Char) : Prop := ∀ c ∈ rest.head?, c.isDigit = false

theorem span_isDigit {cs rest : List Char} (hcs : ∀ c ∈ cs, c.isDigit = true)
    (hrest : NoDigit rest) : (cs ++ rest).span Char.isDigit = (cs, rest) := by
  rw [List.span_eq_takeWhile_dropWhile, List.takeWhile_append_of_pos hcs,
    List.dropWhile_append_of_pos hcs]
  cases rest with
  | nil => simp
  | cons c rest =>
    have hc : ¬c.isDigit = true := by simp [hrest c rfl]
    rw [List.takeWhile_cons_of_neg hc, List.dropWhile_cons_of_neg hc, List.append_nil]

theorem isWordChar_of_isDigit {c : Char} (h : c.isDigit = true) : isWordChar c = true := by
  simp [isWordChar, isFractionChar_of_isDigit h]

theorem Follows.noDigit {rest : List Char} (h : Follows rest) : NoDigit rest := by
  intro c hc
  cases hdigit : c.isDigit with
  | false => rfl
  | true => exact absurd (isWordChar_of_isDigit hdigit) (by simp [h c hc])

theorem WholeText.wholePart?_append {cs rest : List Char} (h : WholeText cs)
    (hrest : NoDigit rest) : wholePart? (cs ++ rest) = some (cs, rest) := by
  unfold wholePart?
  rw [span_isDigit h.digits hrest]
  match cs, h.ne_nil, h.leading with
  | c :: cs, _, hleading =>
    rcases hleading with hzero | hhead
    · cases hzero
      rfl
    · have hc : c ≠ '0' := fun heq => hhead (congrArg some heq)
      split
      · next heq => cases heq
      · next heq => exact absurd (List.cons.inj (Prod.mk.inj heq).1).1 hc
      · next heq => exact absurd (List.cons.inj (Prod.mk.inj heq).1).1 hc
      · rfl

theorem FractionText.fractionPart?_append {fraction fs rest : List Char}
    (h : FractionText fraction fs) (hrest : NoDigit rest) (hpoint : rest.head? ≠ some '.') :
    fractionPart? (fs ++ rest) = some (fraction, rest) := by
  cases h with
  | absent =>
    unfold fractionPart?
    split
    · next heq =>
      rw [List.nil_append] at heq
      rw [heq] at hpoint
      exact absurd rfl hpoint
    · rfl
  | present hne hdigits =>
    rw [List.cons_append, fractionPart?, span_isDigit hdigits hrest]
    split
    · next heq => exact absurd (Prod.mk.inj heq).1 hne
    · rfl

theorem SignText.signOf_append {negative : Bool} {sign cs : List Char} (h : SignText negative sign)
    (hcs : ∀ c ∈ cs.head?, c.isDigit = true) : signOf (sign ++ cs) = (negative, cs) := by
  cases h with
  | plus | minus => rfl
  | absent =>
    unfold signOf
    split
    · next heq => exact absurd (hcs '-' (congrArg List.head? heq)) (by decide)
    · next heq => exact absurd (hcs '+' (congrArg List.head? heq)) (by decide)
    · rfl

theorem ExponentText.exponentPart?_append {exponent : Option Int} {es rest : List Char}
    (h : ExponentText exponent es) (hrest : Follows rest) :
    exponentPart? (es ++ rest) = some (exponent, rest) := by
  cases h with
  | absent =>
    cases rest with
    | nil => rfl
    | cons c rest =>
      have hc : ¬(c = 'e' ∨ c = 'E') := by
        rintro (rfl | rfl) <;> exact absurd (hrest _ rfl) (by decide)
      rw [List.nil_append, exponentPart?, if_neg hc]
  | @present e negative sign cs he hsign hne hdigits =>
    have hhead : ∀ c ∈ (cs ++ rest).head?, c.isDigit = true := by
      cases cs with
      | nil => exact absurd rfl hne
      | cons c cs =>
        rintro _ ⟨⟩
        exact hdigits c List.mem_cons_self
    rw [List.cons_append, List.append_assoc, exponentPart?, if_pos he, hsign.signOf_append hhead]
    dsimp only
    rw [span_isDigit hdigits hrest.noDigit]
    split
    · next heq => exact absurd (Prod.mk.inj heq).1 hne
    · next heq =>
      obtain ⟨rfl, rfl⟩ := Prod.mk.inj heq
      rfl

theorem ExponentText.noDigit_append {exponent : Option Int} {es rest : List Char}
    (h : ExponentText exponent es) (hrest : Follows rest) :
    NoDigit (es ++ rest) ∧ (es ++ rest).head? ≠ some '.' := by
  cases h with
  | absent =>
    refine ⟨hrest.noDigit, fun hpoint => ?_⟩
    exact absurd (hrest '.' hpoint) (by decide)
  | present he hsign hne hdigits =>
    rcases he with rfl | rfl <;>
      exact ⟨by rintro _ ⟨⟩; rfl, by simp⟩

theorem FractionText.noDigit_append {fraction fs rest : List Char} (h : FractionText fraction fs)
    (hrest : NoDigit rest) : NoDigit (fs ++ rest) := by
  cases h with
  | absent => exact hrest
  | present hne hdigits =>
    rintro _ ⟨⟩
    rfl

/-- A numeral is read up to its end and no further. -/
theorem NumeralText.numberFrom_append {longest : Nat} {negative : Bool} {v : Json}
    {cs rest : List Char} (h : NumeralText longest negative v cs) (hrest : Follows rest) :
    numberFrom longest negative (cs ++ rest) = some (v, rest) := by
  cases h with
  | @of whole fraction fs es exponent hwhole hlength hfraction hexponent =>
    obtain ⟨hdigit, hpoint⟩ := hexponent.noDigit_append hrest
    have hread := hwhole.wholePart?_append (hfraction.noDigit_append hdigit)
    rw [List.append_assoc, List.append_assoc, numberFrom, hread]
    dsimp only [Option.bind_eq_bind, Option.bind_some]
    rw [if_neg (Nat.not_lt.mpr hlength), hfraction.fractionPart?_append hdigit hpoint]
    dsimp only [Option.bind_some]
    rw [hexponent.exponentPart?_append hrest]
    dsimp only [Option.bind_some]
    unfold numeralValue
    split <;> rfl

/-! ## Values -/

/-- White space, or nothing. -/
def Gap (cs : List Char) : Prop := ∀ c ∈ cs, isSpace c = true

theorem gap_nil : Gap [] := fun _ hc => absurd hc List.not_mem_nil

theorem gap_blank : Gap [' '] := by
  intro c hc
  rw [List.mem_singleton.mp hc]
  rfl

/-- A minus sign, or nothing. -/
def minus (negative : Bool) : List Char := if negative then ['-'] else []

mutual
/-- The characters stand for the value. -/
inductive TextOf (longest : Nat) : Nat → Json → List Char → Prop
  | null {depth : Nat} : TextOf longest depth .null "null".toList
  | bool {depth : Nat} (b : Bool) : TextOf longest depth (.bool b) (boolText b)
  | undefined {depth : Nat} : TextOf longest depth (.float .undefined) "NaN".toList
  | infinite {depth : Nat} (negative : Bool) :
      TextOf longest depth (.float (.infinite negative)) (minus negative ++ "Infinity".toList)
  | numeral {depth : Nat} {negative : Bool} {v : Json} {cs : List Char}
      (h : NumeralText longest negative v cs) : TextOf longest depth v (minus negative ++ cs)
  | string {depth : Nat} {s cs : List Char} (h : StringText s cs) :
      TextOf longest depth (.string (String.ofList s)) ('"' :: (cs ++ ['"']))
  | emptyArray {depth : Nat} {gap : List Char} (hgap : Gap gap) :
      TextOf longest (depth + 1) (.array []) ('[' :: (gap ++ [']']))
  | array {depth : Nat} {vs : List Json} {cs : List Char} (h : ItemsText longest depth vs cs) :
      TextOf longest (depth + 1) (.array vs) ('[' :: (cs ++ [']']))
  | emptyObject {depth : Nat} {gap : List Char} (hgap : Gap gap) :
      TextOf longest (depth + 1) (.object []) ('\x7b' :: (gap ++ ['\x7d']))
  | object {depth : Nat} {ms : Members} {cs : List Char} (h : MembersText longest depth ms cs) :
      TextOf longest (depth + 1) (.object ms) ('\x7b' :: (cs ++ ['\x7d']))

/-- Values with commas between them. -/
inductive ItemsText (longest : Nat) : Nat → List Json → List Char → Prop
  | last {depth : Nat} {v : Json} {before cs after : List Char} (hbefore : Gap before)
      (hv : TextOf longest depth v cs) (hafter : Gap after) :
      ItemsText longest depth [v] (before ++ (cs ++ after))
  | cons {depth : Nat} {v : Json} {vs : List Json} {before cs after rest : List Char}
      (hbefore : Gap before) (hv : TextOf longest depth v cs) (hafter : Gap after)
      (h : ItemsText longest depth vs rest) :
      ItemsText longest depth (v :: vs) (before ++ (cs ++ (after ++ ',' :: rest)))

/-- Names and values with colons between them, and with commas between the pairs. -/
inductive MembersText (longest : Nat) : Nat → Members → List Char → Prop
  | last {depth : Nat} {v : Json} {name ns before colon gap cs after : List Char}
      (hbefore : Gap before) (hname : StringText name ns) (hcolon : Gap colon) (hgap : Gap gap)
      (hv : TextOf longest depth v cs) (hafter : Gap after) :
      MembersText longest depth [(String.ofList name, v)]
        (before ++ '"' :: (ns ++ '"' :: (colon ++ ':' :: (gap ++ (cs ++ after)))))
  | cons {depth : Nat} {v : Json} {ms : Members}
      {name ns before colon gap cs after rest : List Char}
      (hbefore : Gap before) (hname : StringText name ns) (hcolon : Gap colon) (hgap : Gap gap)
      (hv : TextOf longest depth v cs) (hafter : Gap after)
      (h : MembersText longest depth ms rest) :
      MembersText longest depth ((String.ofList name, v) :: ms)
        (before ++ '"' :: (ns ++ '"' :: (colon ++ ':' :: (gap ++ (cs ++ (after ++ ',' :: rest))))))
end

variable {longest depth : Nat}

theorem NumeralText.exists_cons {negative : Bool} {v : Json} {cs : List Char}
    (h : NumeralText longest negative v cs) : ∃ d rest, cs = d :: rest ∧ d.isDigit = true := by
  cases h with
  | @of whole fraction fs es exponent hwhole hlength hfraction hexponent =>
    match whole, hwhole.ne_nil, hwhole.digits with
    | d :: whole, _, hdigits => exact ⟨d, _, rfl, hdigits d List.mem_cons_self⟩

/-- No value starts with white space or a closing bracket. -/
theorem TextOf.exists_cons {v : Json} {cs : List Char} (h : TextOf longest depth v cs) :
    ∃ c rest, cs = c :: rest ∧ isSpace c = false ∧ c ≠ ']' := by
  cases h with
  | bool b => cases b <;> exact ⟨_, _, rfl, by decide, by decide⟩
  | infinite negative => cases negative <;> exact ⟨_, _, rfl, by decide, by decide⟩
  | @numeral _ negative _ _ h =>
    obtain ⟨d, rest, rfl, hd⟩ := h.exists_cons
    cases negative with
    | true => exact ⟨_, _, rfl, by decide, by decide⟩
    | false =>
      refine ⟨d, rest, rfl, ?_, ?_⟩
      · by_contra hspace
        simp only [isSpace, Bool.not_eq_false, decide_eq_true_eq] at hspace
        rcases hspace with rfl | rfl | rfl | rfl <;> exact absurd hd (by decide)
      · rintro rfl
        exact absurd hd (by decide)
  | _ => exact ⟨_, _, rfl, by decide, by decide⟩

theorem TextOf.length_pos {v : Json} {cs : List Char} (h : TextOf longest depth v cs) :
    0 < cs.length := by
  obtain ⟨c, rest, rfl, -⟩ := h.exists_cons
  exact Nat.succ_pos _

theorem skipSpace_cons {c : Char} (h : isSpace c = false) (rest : List Char) :
    skipSpace (c :: rest) = c :: rest := by
  rw [skipSpace, List.dropWhile_cons_of_neg (by simp [h])]

theorem skipSpace_append {gap cs : List Char} (hgap : Gap gap)
    (hcs : ∀ c ∈ cs.head?, isSpace c = false) : skipSpace (gap ++ cs) = cs := by
  rw [skipSpace, List.dropWhile_append_of_pos hgap]
  cases cs with
  | nil => rfl
  | cons c cs => exact skipSpace_cons (hcs c rfl) cs

/-- White space and the marks between values are in no word. -/
theorem follows_gap {gap cs : List Char} (hgap : Gap gap) (hcs : Follows cs) :
    Follows (gap ++ cs) := by
  cases gap with
  | nil => exact hcs
  | cons c gap =>
    refine follows_cons ?_ _
    have hc := hgap c List.mem_cons_self
    simp only [isSpace, decide_eq_true_eq] at hc
    rcases hc with rfl | rfl | rfl | rfl <;> decide

theorem skipSpace_gap_cons {gap : List Char} (hgap : Gap gap) {c : Char}
    (hc : isSpace c = false) (rest : List Char) : skipSpace (gap ++ c :: rest) = c :: rest :=
  skipSpace_append hgap (by rintro _ ⟨⟩; exact hc)

theorem TextOf.skipSpace_append {v : Json} {gap cs : List Char} (h : TextOf longest depth v cs)
    (hgap : Gap gap) (rest : List Char) : skipSpace (gap ++ (cs ++ rest)) = cs ++ rest := by
  obtain ⟨c, cs, rfl, hspace, -⟩ := h.exists_cons
  exact skipSpace_gap_cons hgap hspace _

theorem ItemsText.skipSpace_append {vs : List Json} {cs : List Char}
    (h : ItemsText longest depth vs cs) (rest : List Char) :
    ∃ c more, skipSpace (cs ++ rest) = c :: more ∧ c ≠ ']' := by
  cases h with
  | last hbefore hv hafter | cons hbefore hv hafter h =>
    rw [List.append_assoc, List.append_assoc, hv.skipSpace_append hbefore]
    obtain ⟨c, cs, rfl, -, hc⟩ := hv.exists_cons
    exact ⟨c, _, rfl, hc⟩

theorem MembersText.skipSpace_append {ms : Members} {cs : List Char}
    (h : MembersText longest depth ms cs) (rest : List Char) :
    ∃ more, skipSpace (cs ++ rest) = '"' :: more := by
  cases h with
  | last hbefore | cons hbefore =>
    rw [List.append_assoc]
    exact ⟨_, skipSpace_gap_cons hbefore (by decide) _⟩

/-! ## Reading -/

theorem value_numeral {negative : Bool} {v : Json} {cs rest : List Char} (fuel : Nat)
    (h : NumeralText longest negative v cs) (hrest : Follows rest) :
    value longest (fuel + 1) depth (minus negative ++ cs ++ rest) = some (v, rest) := by
  have hread := h.numberFrom_append hrest
  obtain ⟨d, ds, rfl, hd⟩ := h.exists_cons
  cases negative with
  | false =>
    show value longest (fuel + 1) depth (d :: (ds ++ rest)) = _
    rw [value]
    · exact hread
    all_goals
      intro more heq
      rw [(List.cons.inj heq).1] at hd
      exact absurd hd (by decide)
  | true =>
    show value longest (fuel + 1) depth ('-' :: d :: (ds ++ rest)) = _
    rw [value]
    · exact hread
    · intro more heq
      rw [(List.cons.inj heq).1] at hd
      exact absurd hd (by decide)

theorem value_word {cs : List Char} (fuel : Nat) (rest : List Char) {v : Json}
    (h : (v, cs) ∈ [(.null, "null".toList), (.bool true, "true".toList),
      (.bool false, "false".toList), (.float .undefined, "NaN".toList),
      (.float (.infinite false), "Infinity".toList),
      (.float (.infinite true), "-Infinity".toList)]) :
    value longest (fuel + 1) depth (cs ++ rest) = some (v, rest) := by
  simp only [List.mem_cons, List.not_mem_nil, Prod.mk.injEq, or_false] at h
  rcases h with ⟨rfl, rfl⟩ | ⟨rfl, rfl⟩ | ⟨rfl, rfl⟩ | ⟨rfl, rfl⟩ | ⟨rfl, rfl⟩ | ⟨rfl, rfl⟩ <;>
    rfl

/-- How reading goes on after the value of a member: to the closing brace or to the next member. -/
def afterValue (longest fuel depth : Nat) (name : String) (v : Json) (rest : List Char) :
    Option (Members × List Char) :=
  match skipSpace rest with
  | '\x7d' :: rest => some ([(name, v)], rest)
  | ',' :: rest =>
    (membersFrom longest fuel depth (skipSpace rest)).map fun r => ((name, v) :: r.1, r.2)
  | _ => none

/-- A member is read up to the end of its value. -/
theorem membersFrom_member {v : Json} {name ns colon gap cs rest : List Char} {fuel : Nat}
    (hname : StringText name ns) (hcolon : Gap colon) (hgap : Gap gap)
    (hv : TextOf longest depth v cs)
    (hvalue : value longest fuel depth (cs ++ rest) = some (v, rest)) :
    membersFrom longest (fuel + 1) depth
        ('"' :: (ns ++ '"' :: (colon ++ ':' :: (gap ++ (cs ++ rest))))) =
      afterValue longest fuel depth (String.ofList name) v rest := by
  have hskip := skipSpace_gap_cons hcolon (by decide : isSpace ':' = false) (gap ++ (cs ++ rest))
  rw [membersFrom, hname.stringFrom_append]
  simp only [hskip, hv.skipSpace_append hgap, hvalue]
  rfl

mutual
/-- A text of a value is read as the value, and what follows it is left. -/
theorem value_of_textOf {depth : Nat} {v : Json} {cs : List Char} :
    TextOf longest depth v cs → ∀ {rest : List Char} {fuel : Nat}, Follows rest →
      2 * cs.length ≤ fuel + 2 → value longest (fuel + 1) depth (cs ++ rest) = some (v, rest)
  | .null, rest, fuel, _, _ => value_word fuel rest (by simp)
  | .bool b, rest, fuel, _, _ => value_word fuel rest (by cases b <;> simp [boolText])
  | .undefined, rest, fuel, _, _ => value_word fuel rest (by simp)
  | .infinite negative, rest, fuel, _, _ =>
    value_word fuel rest (by cases negative <;> simp [minus])
  | .numeral h, _, fuel, hrest, _ => value_numeral fuel h hrest
  | .string h, rest, fuel, _, _ => by
    rw [List.cons_append, List.append_assoc, value]
    exact congrArg (Option.map _) (h.stringFrom_append rest)
  | .emptyArray hgap, rest, fuel, _, _ => by
    rw [List.cons_append, List.append_assoc, value, List.singleton_append,
      skipSpace_gap_cons hgap (by decide)]
    rfl
  | @TextOf.array _ depth vs cs h, rest, fuel, _, hfuel => by
    obtain ⟨c, more, hskip, hc⟩ := h.skipSpace_append (']' :: rest)
    rw [List.length_cons, List.length_append, List.length_singleton] at hfuel
    obtain ⟨fuel, rfl⟩ := Nat.exists_eq_add_of_le' (show 2 ≤ fuel by omega)
    have hitems : itemsFrom longest (fuel + 2) depth (skipSpace (cs ++ ']' :: rest)) =
        some (vs, rest) := itemsFrom_of_itemsText h (by omega)
    rw [List.cons_append, List.append_assoc, value, List.singleton_append, hskip]
    rw [hskip] at hitems
    split
    · next heq => exact absurd (List.cons.inj heq).1 hc
    · rw [hitems]
      rfl
  | .emptyObject hgap, rest, fuel, _, _ => by
    rw [List.cons_append, List.append_assoc, value, List.singleton_append,
      skipSpace_gap_cons hgap (by decide)]
    rfl
  | @TextOf.object _ depth ms cs h, rest, fuel, _, hfuel => by
    obtain ⟨more, hskip⟩ := h.skipSpace_append ('\x7d' :: rest)
    rw [List.length_cons, List.length_append, List.length_singleton] at hfuel
    obtain ⟨fuel, rfl⟩ := Nat.exists_eq_add_of_le' (show 2 ≤ fuel by omega)
    have hmembers : membersFrom longest (fuel + 2) depth (skipSpace (cs ++ '\x7d' :: rest)) =
        some (ms, rest) := membersFrom_of_membersText h (by omega)
    rw [List.cons_append, List.append_assoc, value, List.singleton_append, hskip]
    rw [hskip] at hmembers
    show (membersFrom longest (fuel + 2) depth ('"' :: more)).map _ = _
    rw [hmembers]
    rfl

/-- The items of an array are read up to its closing bracket. -/
theorem itemsFrom_of_itemsText {depth : Nat} {vs : List Json} {cs : List Char} :
    ItemsText longest depth vs cs → ∀ {rest : List Char} {fuel : Nat},
      2 * cs.length ≤ fuel + 2 →
      itemsFrom longest (fuel + 2) depth (skipSpace (cs ++ ']' :: rest)) = some (vs, rest)
  | @ItemsText.last _ depth v before cs after hbefore hv hafter, rest, fuel, hfuel => by
    rw [List.length_append, List.length_append] at hfuel
    have hfollows : Follows (after ++ ']' :: rest) :=
      follows_gap hafter (follows_cons (by decide) _)
    have hvalue : value longest (fuel + 1) depth (cs ++ (after ++ ']' :: rest)) =
        some (v, after ++ ']' :: rest) := value_of_textOf hv hfollows (by omega)
    have hskip : skipSpace (after ++ ']' :: rest) = ']' :: rest :=
      skipSpace_gap_cons hafter (by decide) rest
    rw [List.append_assoc, List.append_assoc, hv.skipSpace_append hbefore, itemsFrom, hvalue]
    dsimp only
    rw [hskip]
    rfl
  | @ItemsText.cons _ depth v vs before cs after others hbefore hv hafter h, rest, fuel, hfuel => by
    rw [List.length_append, List.length_append, List.length_append, List.length_cons] at hfuel
    have hfollows : Follows (after ++ ',' :: (others ++ ']' :: rest)) :=
      follows_gap hafter (follows_cons (by decide) _)
    have hvalue : value longest (fuel + 1) depth (cs ++ (after ++ ',' :: (others ++ ']' :: rest))) =
        some (v, after ++ ',' :: (others ++ ']' :: rest)) := value_of_textOf hv hfollows (by omega)
    have hskip : skipSpace (after ++ ',' :: (others ++ ']' :: rest)) =
        ',' :: (others ++ ']' :: rest) := skipSpace_gap_cons hafter (by decide) _
    have hpos := hv.length_pos
    obtain ⟨fuel, rfl⟩ := Nat.exists_eq_add_of_le' (show 1 ≤ fuel by omega)
    have hitems : itemsFrom longest (fuel + 2) depth (skipSpace (others ++ ']' :: rest)) =
        some (vs, rest) := itemsFrom_of_itemsText h (by omega)
    have htext : before ++ (cs ++ (after ++ ',' :: others)) ++ ']' :: rest =
        before ++ (cs ++ (after ++ ',' :: (others ++ ']' :: rest))) := by simp
    rw [htext, hv.skipSpace_append hbefore, itemsFrom, hvalue]
    dsimp only
    rw [hskip]
    show (itemsFrom longest (fuel + 2) depth (skipSpace (others ++ ']' :: rest))).map _ = _
    rw [hitems]
    rfl

/-- The members of an object are read up to its closing bracket. -/
theorem membersFrom_of_membersText {depth : Nat} {ms : Members} {cs : List Char} :
    MembersText longest depth ms cs → ∀ {rest : List Char} {fuel : Nat},
      2 * cs.length ≤ fuel + 2 →
      membersFrom longest (fuel + 2) depth (skipSpace (cs ++ '\x7d' :: rest)) = some (ms, rest)
  | @MembersText.last _ depth v name ns before colon gap cs after hbefore hname hcolon hgap hv
      hafter, rest, fuel, hfuel => by
    simp only [List.length_append, List.length_cons] at hfuel
    have hfollows : Follows (after ++ '\x7d' :: rest) :=
      follows_gap hafter (follows_cons (by decide) _)
    have hskip : skipSpace (after ++ '\x7d' :: rest) = '\x7d' :: rest :=
      skipSpace_gap_cons hafter (by decide) rest
    have hvalue : value longest (fuel + 1) depth (cs ++ (after ++ '\x7d' :: rest)) =
        some (v, after ++ '\x7d' :: rest) := value_of_textOf hv hfollows (by omega)
    have htext : before ++ '"' :: (ns ++ '"' :: (colon ++ ':' :: (gap ++ (cs ++ after)))) ++
        '\x7d' :: rest = before ++ '"' :: (ns ++ '"' :: (colon ++ ':' ::
          (gap ++ (cs ++ (after ++ '\x7d' :: rest))))) := by simp
    rw [htext, skipSpace_gap_cons hbefore (by decide),
      membersFrom_member hname hcolon hgap hv hvalue, afterValue, hskip]
    rfl
  | @MembersText.cons _ depth v ms name ns before colon gap cs after others hbefore hname hcolon
      hgap hv hafter h, rest, fuel, hfuel => by
    simp only [List.length_append, List.length_cons] at hfuel
    have hfollows : Follows (after ++ ',' :: (others ++ '\x7d' :: rest)) :=
      follows_gap hafter (follows_cons (by decide) _)
    have hskip : skipSpace (after ++ ',' :: (others ++ '\x7d' :: rest)) =
        ',' :: (others ++ '\x7d' :: rest) := skipSpace_gap_cons hafter (by decide) _
    have hvalue : value longest (fuel + 1) depth
        (cs ++ (after ++ ',' :: (others ++ '\x7d' :: rest))) =
          some (v, after ++ ',' :: (others ++ '\x7d' :: rest)) :=
      value_of_textOf hv hfollows (by omega)
    obtain ⟨fuel, rfl⟩ := Nat.exists_eq_add_of_le' (show 1 ≤ fuel by omega)
    have hmembers : membersFrom longest (fuel + 2) depth
        (skipSpace (others ++ '\x7d' :: rest)) = some (ms, rest) :=
      membersFrom_of_membersText h (by omega)
    have htext : before ++ '"' :: (ns ++ '"' :: (colon ++ ':' ::
        (gap ++ (cs ++ (after ++ ',' :: others))))) ++ '\x7d' :: rest =
        before ++ '"' :: (ns ++ '"' :: (colon ++ ':' ::
          (gap ++ (cs ++ (after ++ ',' :: (others ++ '\x7d' :: rest)))))) := by simp
    rw [htext, skipSpace_gap_cons hbefore (by decide),
      membersFrom_member hname hcolon hgap hv hvalue, afterValue, hskip]
    show (membersFrom longest (fuel + 2) depth (skipSpace (others ++ '\x7d' :: rest))).map _ = _
    rw [hmembers]
    rfl
end

/-- Every text of the grammar, with white space around it, is read as the value it stands for. -/
theorem readWithin?_of_textOf {v : Json} {before cs after : List Char} (hbefore : Gap before)
    (h : TextOf longest depth v cs) (hafter : Gap after) :
    readWithin? longest depth (before ++ (cs ++ after)) = some v := by
  have hfollows : Follows (after ++ []) := follows_gap hafter (by rintro _ ⟨⟩)
  have hskip : skipSpace (after ++ []) = [] := skipSpace_append hafter (by rintro _ ⟨⟩)
  rw [List.append_nil] at hfollows hskip
  have hvalue : value longest (2 * (before ++ (cs ++ after)).length + 1) depth (cs ++ after) =
      some (v, after) := by
    refine value_of_textOf h hfollows ?_
    rw [List.length_append, List.length_append]
    omega
  rw [readWithin?, h.skipSpace_append hbefore, hvalue]
  dsimp only
  rw [hskip]
  rfl

/-! ## Writing -/

variable {escape : Char → List Char}

theorem textOf_string (hescape : ∀ c, CharText c (escape c)) (longest depth : Nat) (s : String) :
    TextOf longest depth (.string s) (stringWith escape s) := by
  have htext : TextOf longest depth _ _ := .string (stringText_flatMap hescape s.toList)
  rw [String.ofList_toList] at htext
  exact htext

variable {gap : List Char}

/-- The last member as it is written: its name, a colon, a gap and the value. -/
theorem membersText_singleton (hescape : ∀ c, CharText c (escape c)) {before cs : List Char}
    (hbefore : Gap before) (hgap : Gap gap) (name : String) {v : Json}
    (hv : TextOf longest depth v cs) : MembersText longest depth [(name, v)]
      (before ++ (stringWith escape name ++ ':' :: (gap ++ cs))) := by
  have hmembers := MembersText.last hbefore (stringText_flatMap hescape name.toList) gap_nil hgap
    hv gap_nil
  rw [String.ofList_toList] at hmembers
  simpa [stringWith] using hmembers

theorem membersText_cons (hescape : ∀ c, CharText c (escape c)) {before cs rest : List Char}
    (hbefore : Gap before) (hgap : Gap gap) (name : String) {v : Json} {ms : Members}
    (hv : TextOf longest depth v cs) (h : MembersText longest depth ms rest) :
    MembersText longest depth ((name, v) :: ms)
      (before ++ (stringWith escape name ++ ':' :: (gap ++ (cs ++ ',' :: rest)))) := by
  have hmembers := MembersText.cons hbefore (stringText_flatMap hescape name.toList) gap_nil hgap
    hv gap_nil h
  rw [String.ofList_toList] at hmembers
  simpa [stringWith] using hmembers

/-! ## Objects of texts -/

/-- A member of an object as it stands in the text, with a gap after the colon. -/
def memberText (escape : Char → List Char) (gap : List Char) (m : String × String) : List Char :=
  stringWith escape m.1 ++ ':' :: (gap ++ stringWith escape m.2)

/-- An object of texts, with a gap after each comma and each colon. -/
def objectText (escape : Char → List Char) (gap : List Char) (ms : List (String × String)) :
    List Char :=
  '\x7b' :: joined (',' :: gap) (ms.map (memberText escape gap)) ++ ['\x7d']

theorem spacedMembers_texts (ms : List (String × String)) :
    spacedMembers (texts ms) = ms.map (memberText asciiEscape [' ']) := by
  induction ms with
  | nil => rfl
  | cons m ms ih =>
    rw [texts, List.map_cons, ← texts, spacedMembers, ih]
    rfl

theorem spaced_texts (ms : List (String × String)) :
    spaced (.object (texts ms)) = objectText asciiEscape [' '] ms := by
  rw [spaced, spacedMembers_texts]
  rfl

theorem membersText_texts (hescape : ∀ c, CharText c (escape c)) (hgap : Gap gap)
    (m : String × String) (ms : List (String × String)) {before : List Char}
    (hbefore : Gap before) : MembersText longest depth (texts (m :: ms))
      (before ++ joined (',' :: gap) ((m :: ms).map (memberText escape gap))) := by
  have hvalue := textOf_string hescape longest depth m.2
  induction ms generalizing m before with
  | nil => exact membersText_singleton hescape hbefore hgap m.1 hvalue
  | cons m' ms ih =>
    have hrest := ih m' hgap (textOf_string hescape longest depth m'.2)
    have hmembers := membersText_cons hescape hbefore hgap m.1 hvalue hrest
    simpa [texts, joined, memberText] using hmembers

theorem textOf_objectText (hescape : ∀ c, CharText c (escape c)) (hgap : Gap gap)
    (ms : List (String × String)) :
    TextOf longest (depth + 1) (.object (texts ms)) (objectText escape gap ms) := by
  cases ms with
  | nil => exact .emptyObject gap_nil
  | cons m ms => exact .object (membersText_texts hescape hgap m ms gap_nil)

/-- An object of texts is read as it was written. -/
theorem readBytes?_objectText (hescape : ∀ c, CharText c (escape c)) (hgap : Gap gap)
    (ms : List (String × String)) :
    readBytes? (Utf8.encode (objectText escape gap ms)) = some (.object (texts ms)) := by
  have htext : TextOf Text.longestNumeral deepest _ _ := textOf_objectText hescape hgap ms
  have hread := readWithin?_of_textOf gap_nil htext gap_nil
  rw [List.nil_append, List.append_nil] at hread
  rw [readBytes?, Utf8.decode?_encode, Option.bind_some, read?, hread]

theorem readBytes?_compactTexts (ms : List (String × String)) :
    readBytes? (Utf8.encode (compactTexts ms)) = some (.object (texts ms)) :=
  readBytes?_objectText charText_compactEscape gap_nil ms

theorem readBytes?_toText (ms : List (String × String)) :
    readBytes? (Utf8.encode (toText (.object (texts ms))).toList) = some (.object (texts ms)) := by
  rw [toText, String.toList_ofList, spaced_texts]
  exact readBytes?_objectText charText_asciiEscape gap_blank ms

end WebKeys.Json
