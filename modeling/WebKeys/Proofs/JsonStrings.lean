import WebKeys.Json.Reader
import WebKeys.Json.Writer

/-!
# Strings of JSON

Each character of a string may be written as it is or as any of its escapes, and the reader takes
all of these for the character (`CharText.stringBody_append`). Both forms in which strings are
written, `asciiEscape` and `compactEscape`, write each character in one of these ways, so a string
is read back whatever characters it holds (`stringFrom_escaped`).
-/

namespace WebKeys.Hex

attribute [local instance (2000)] instPowNat

theorem digit?_digit {n : Nat} (h : n < 16) : digit? (digit n) = some n := by
  revert n
  decide

theorem toNat?_concat {cs : List Char} {n d : Nat} (hn : toNat? cs = some n) (hd : d < 16) :
    toNat? (cs ++ [digit d]) = some (16 * n + d) := by
  unfold toNat? at hn ⊢
  rw [List.foldl_append, hn, List.foldl_cons, List.foldl_nil, Option.bind_some, digit?_digit hd]
  rfl

theorem toNat?_fixed (w n : Nat) : toNat? (fixed w n) = some (n % 16 ^ w) := by
  induction w generalizing n with
  | zero => simp [fixed, toNat?, Nat.mod_one]
  | succ w ih =>
    rw [fixed, toNat?_concat (ih (n / 16)) (Nat.mod_lt n (by decide)), Nat.pow_succ', Nat.mod_mul]
    congr 1
    omega

end WebKeys.Hex

namespace WebKeys.Json

/-! ## Characters and their escapes -/

/-- The letters after a backslash that stand for a character. -/
def shortEscapes : List (Char × Char) :=
  [('"', '"'), ('\\', '\\'), ('/', '/'), ('b', '\x08'), ('f', '\x0c'), ('n', '\n'), ('r', '\r'),
   ('t', '\t')]

/-- Four hexadecimal digits for a number. -/
structure UnitText (n : Nat) (cs : List Char) : Prop where
  length_eq : cs.length = 4
  toNat?_eq : Hex.toNat? cs = some n

/-- The ways in which a character may be written inside a string. -/
inductive CharText : Char → List Char → Prop
  | plain {c : Char} (hquote : c ≠ '"') (hslash : c ≠ '\\') (hlow : 0x20 ≤ c.toNat) :
      CharText c [c]
  | short {letter c : Char} (h : (letter, c) ∈ shortEscapes) : CharText c ['\\', letter]
  | unit {c : Char} {cs : List Char} (h : UnitText c.toNat cs) : CharText c ('\\' :: 'u' :: cs)
  | pair {c : Char} {high low : Nat} {cs ds : List Char} (hhigh : isHighSurrogate high = true)
      (hlow : isLowSurrogate low = true)
      (hc : c.toNat = 0x10000 + (high - 0xD800) * 0x400 + (low - 0xDC00))
      (hcs : UnitText high cs) (hds : UnitText low ds) :
      CharText c ('\\' :: 'u' :: (cs ++ '\\' :: 'u' :: ds))

/-- What stands between the quotes of a string. -/
inductive StringText : List Char → List Char → Prop
  | nil : StringText [] []
  | cons {c : Char} {s cs rest : List Char} (hc : CharText c cs) (h : StringText s rest) :
      StringText (c :: s) (cs ++ rest)

/-! ## Reading -/

theorem stringBody_escape {cs rest : List Char} {e : Char} (h : escape? cs = some (e, rest))
    (fuel : Nat) : stringBody (fuel + 1) ('\\' :: cs) =
      (stringBody fuel rest).map fun r => (e :: r.1, r.2) := by
  rw [stringBody, if_neg (by decide), if_pos rfl, h, Option.bind_eq_bind, Option.bind_some]
  dsimp only
  cases stringBody fuel rest <;> rfl

theorem stringBody_plain {c : Char} (hquote : c ≠ '"') (hslash : c ≠ '\\') (hlow : 0x20 ≤ c.toNat)
    (fuel : Nat) (rest : List Char) : stringBody (fuel + 1) (c :: rest) =
      (stringBody fuel rest).map fun r => (c :: r.1, r.2) := by
  rw [stringBody, if_neg hquote, if_neg hslash, if_neg (Nat.not_lt.mpr hlow)]
  cases stringBody fuel rest <;> rfl

theorem UnitText.fourDigits?_append {n : Nat} {cs : List Char} (h : UnitText n cs)
    (rest : List Char) : fourDigits? (cs ++ rest) = some (n, rest) := by
  match cs, h.length_eq with
  | [a, b, c, d], _ =>
    show (Hex.toNat? [a, b, c, d]).map (·, rest) = _
    rw [h.toNat?_eq, Option.map_some]

theorem surrogate_of_toNat (c : Char) :
    isHighSurrogate c.toNat = false ∧ isLowSurrogate c.toNat = false := by
  simp only [isHighSurrogate, isLowSurrogate, Bool.and_eq_false_iff, decide_eq_false_iff_not,
    Nat.not_le]
  have hvalid := c.valid
  rcases hvalid with hlt | ⟨hlt, -⟩
  · have hlt' : c.toNat < 0xD800 := hlt
    omega
  · have hlt' : 0xDFFF < c.toNat := hlt
    omega

theorem CharText.stringBody_append {c : Char} {cs : List Char} (h : CharText c cs) (fuel : Nat)
    (rest : List Char) : stringBody (fuel + 1) (cs ++ rest) =
      (stringBody fuel rest).map fun r => (c :: r.1, r.2) := by
  cases h with
  | plain hquote hslash hlow => exact stringBody_plain hquote hslash hlow fuel rest
  | @short letter _ h =>
    have hread : escape? (letter :: rest) = some (c, rest) := by
      simp only [shortEscapes, List.mem_cons, List.not_mem_nil, Prod.mk.injEq, or_false] at h
      rcases h with ⟨rfl, rfl⟩ | ⟨rfl, rfl⟩ | ⟨rfl, rfl⟩ | ⟨rfl, rfl⟩ | ⟨rfl, rfl⟩ | ⟨rfl, rfl⟩ |
        ⟨rfl, rfl⟩ | ⟨rfl, rfl⟩ <;> rfl
    exact stringBody_escape hread fuel
  | @unit _ cs h =>
    have hread : escape? ('u' :: (cs ++ rest)) = some (c, rest) := by
      obtain ⟨hhigh, hlow⟩ := surrogate_of_toNat c
      show unicodeEscape? _ = _
      simp [unicodeEscape?, h.fourDigits?_append, hhigh, hlow]
    exact stringBody_escape hread fuel
  | @pair _ high low cs ds hhigh hlow hc hcs hds =>
    have hread : escape? ('u' :: (cs ++ '\\' :: 'u' :: (ds ++ rest))) = some (c, rest) := by
      show unicodeEscape? _ = _
      simp [unicodeEscape?, hcs.fourDigits?_append, hds.fourDigits?_append, hhigh, hlow, ← hc]
    have happend : '\\' :: 'u' :: (cs ++ '\\' :: 'u' :: ds) ++ rest =
        '\\' :: 'u' :: (cs ++ '\\' :: 'u' :: (ds ++ rest)) := by simp
    rw [happend]
    exact stringBody_escape hread fuel

/-- A string is read up to its closing quote. -/
theorem StringText.stringBody_append {s cs : List Char} (h : StringText s cs) {fuel : Nat}
    (hfuel : s.length < fuel) (rest : List Char) :
    stringBody fuel (cs ++ '"' :: rest) = some (s, rest) := by
  induction h generalizing fuel with
  | nil =>
    obtain ⟨fuel, rfl⟩ := Nat.exists_eq_add_of_lt hfuel
    rw [List.length_nil, Nat.zero_add, List.nil_append, stringBody, if_pos rfl]
  | @cons c s cs rest' hc h ih =>
    cases fuel with
    | zero => exact absurd hfuel (Nat.not_lt_zero _)
    | succ fuel =>
      rw [List.append_assoc, hc.stringBody_append, ih (Nat.lt_of_succ_lt_succ hfuel)]
      rfl

theorem StringText.length_le {s cs : List Char} (h : StringText s cs) : s.length ≤ cs.length := by
  induction h with
  | nil => exact Nat.le_refl 0
  | cons hc h ih =>
    rw [List.length_cons, List.length_append]
    cases hc <;> simp only [List.length_cons] <;> omega

theorem StringText.stringFrom_append {s cs : List Char} (h : StringText s cs) (rest : List Char) :
    stringFrom (cs ++ '"' :: rest) = some (String.ofList s, rest) := by
  have hlength := h.length_le
  rw [stringFrom, h.stringBody_append, Option.map_some]
  rw [List.length_append]
  omega

/-! ## Writing -/

theorem unitText_fixed {n : Nat} (h : n < 0x10000) : UnitText n (Hex.fixed 4 n) where
  length_eq := rfl
  toNat?_eq := by
    rw [Hex.toNat?_fixed]
    exact congrArg some (Nat.mod_eq_of_lt h)

theorem charText_unitEscapes (c : Char) : CharText c (unitEscapes c) := by
  have hbound : c.toNat < 0x110000 := c.valid.elim (fun h => Nat.lt_trans h (by decide)) (·.2)
  unfold unitEscapes
  dsimp only
  split
  · next h => exact .unit (unitText_fixed h)
  · next h =>
    obtain ⟨high, hhigh⟩ : ∃ high, high = 0xD800 + (c.toNat - 0x10000) / 0x400 := ⟨_, rfl⟩
    obtain ⟨low, hlow⟩ : ∃ low, low = 0xDC00 + (c.toNat - 0x10000) % 0x400 := ⟨_, rfl⟩
    have hhigh' : isHighSurrogate high = true := by
      simp only [isHighSurrogate, Bool.and_eq_true, decide_eq_true_eq]
      omega
    have hlow' : isLowSurrogate low = true := by
      simp only [isLowSurrogate, Bool.and_eq_true, decide_eq_true_eq]
      omega
    rw [← hhigh, ← hlow]
    exact .pair hhigh' hlow' (by omega) (unitText_fixed (by omega)) (unitText_fixed (by omega))

theorem charText_shortEscape {c : Char} {cs : List Char} (h : shortEscape? c = some cs) :
    CharText c cs := by
  unfold shortEscape? at h
  repeat' split at h
  all_goals cases h
  all_goals next heq => subst heq; exact .short (by decide)

theorem ne_of_shortEscape? {c : Char} (h : shortEscape? c = none) : c ≠ '"' ∧ c ≠ '\\' := by
  constructor <;> rintro rfl <;> cases h

theorem charText_asciiEscape (c : Char) : CharText c (asciiEscape c) := by
  unfold asciiEscape
  cases hshort : shortEscape? c with
  | some cs => exact charText_shortEscape hshort
  | none =>
    obtain ⟨hquote, hslash⟩ := ne_of_shortEscape? hshort
    rw [Option.getD_none]
    split
    · next h => exact .plain hquote hslash h.1
    · exact charText_unitEscapes c

theorem charText_compactEscape (c : Char) : CharText c (compactEscape c) := by
  unfold compactEscape
  cases hshort : shortEscape? c with
  | some cs => exact charText_shortEscape hshort
  | none =>
    obtain ⟨hquote, hslash⟩ := ne_of_shortEscape? hshort
    rw [Option.getD_none]
    split
    · next h => exact .unit (unitText_fixed (Nat.lt_trans h (by decide)))
    · next h => exact .plain hquote hslash (Nat.not_lt.mp h)

variable {escape : Char → List Char}

theorem stringText_flatMap (hescape : ∀ c, CharText c (escape c)) :
    ∀ cs : List Char, StringText cs (cs.flatMap escape)
  | [] => .nil
  | c :: cs => .cons (hescape c) (stringText_flatMap hescape cs)

/-- What follows the opening quote of a string that was written. -/
theorem stringFrom_escaped (hescape : ∀ c, CharText c (escape c)) (s : String)
    (rest : List Char) : stringFrom (s.toList.flatMap escape ++ '"' :: rest) = some (s, rest) := by
  rw [(stringText_flatMap hescape s.toList).stringFrom_append, String.ofList_toList]

/-- The members of an object of texts. -/
def texts (ms : List (String × String)) : Members := ms.map fun m => (m.1, .string m.2)

end WebKeys.Json
