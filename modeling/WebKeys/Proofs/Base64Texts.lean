import WebKeys.Proofs.Base64
import WebKeys.Proofs.PrivatePart

/-!
# Which texts are base 64

Texts in web keys are read with some leniency: in either alphabet, with padding or without, and
whatever the spare bits of the last character are. That is all of it. A text that is read, without
its padding, with the marks of the alphabet for links, and with zero for the spare bits, is the one
that its bytes are written as.

* `linkForm`, `significant`, `clearSpare`: what a text is up to.
* `LooseText`: the texts that are read, described by their characters and their padding alone.
* `sextets_of_regroup`: the groups of six bits that bytes were put together from are those that they
  are taken apart into, but for the spare bits.
* `exists_decodeUnpadded_iff`, `encode_of_decodeUnpadded`: which texts are read, and as which bytes.
* `WebKey.member_texts_inverted`: the same for members of web keys, and all other texts are refused.
-/

namespace WebKeys

namespace Base64

/-! ## Characters -/

/-- A character of the alphabet for links: a plain letter, a digit, or one of two marks. -/
def IsLinkChar (c : Char) : Prop :=
  ('A' ≤ c ∧ c ≤ 'Z') ∨ ('a' ≤ c ∧ c ≤ 'z') ∨ ('0' ≤ c ∧ c ≤ '9') ∨ c = '-' ∨ c = '_'

/-- The marks for links in place of those of the standard alphabet, and all else as it is. -/
def linkForm (c : Char) : Char := if c = '+' then '-' else if c = '/' then '_' else c

theorem linkForm_eq_self {c : Char} (hplus : c ≠ '+') (hslash : c ≠ '/') : linkForm c = c := by
  rw [linkForm, if_neg hplus, if_neg hslash]

/-- From the digits on there is no mark of the standard alphabet. -/
theorem linkForm_of_le {c : Char} (h : 48 ≤ c.toNat) : linkForm c = c := by
  apply linkForm_eq_self <;> rintro rfl <;> exact absurd h (by decide)

theorem value?_linkForm (c : Char) :
    Alphabet.link.value? (linkForm c) = Alphabet.link.value? c := by
  by_cases hplus : c = '+'
  · subst hplus
    rfl
  · by_cases hslash : c = '/'
    · subst hslash
      rfl
    · rw [linkForm_eq_self hplus hslash]

/-- A character with a value is, up to the spelling of the last two, the letter of the alphabet with
that value. -/
theorem linkForm_of_value? {c : Char} {n : Nat} (h : Alphabet.link.value? c = some n) :
    n < 64 ∧ linkForm c = Alphabet.link.char n := by
  unfold Alphabet.value? at h
  simp only [between_iff, Char.reduceToNat] at h
  split_ifs at h with hupper hlower hdigit hplus hslash hminus hline <;> cases h
  · have hn : 65 + (c.toNat - 65) = c.toNat := by omega
    refine ⟨by omega, ?_⟩
    rw [linkForm_of_le (by omega), Alphabet.char, if_pos (by omega), hn, Char.ofNat_toNat]
  · have hn : 71 + (c.toNat - 71) = c.toNat := by omega
    refine ⟨by omega, ?_⟩
    rw [linkForm_of_le (by omega), Alphabet.char, if_neg (by omega), if_pos (by omega), hn,
      Char.ofNat_toNat]
  · have hn : c.toNat + 4 - 4 = c.toNat := by omega
    refine ⟨by omega, ?_⟩
    rw [linkForm_of_le (by omega), Alphabet.char, if_neg (by omega), if_neg (by omega),
      if_pos (by omega), hn, Char.ofNat_toNat]
  · subst hplus
    decide
  · subst hslash
    decide
  · obtain ⟨-, rfl⟩ := hminus
    decide
  · obtain ⟨-, rfl⟩ := hline
    decide

theorem value?_eq_some_iff {c : Char} {n : Nat} :
    Alphabet.link.value? c = some n ↔ n < 64 ∧ linkForm c = Alphabet.link.char n := by
  refine ⟨linkForm_of_value?, ?_⟩
  rintro ⟨hn, hc⟩
  rw [← value?_linkForm, hc, value?_char .link hn]

theorem exists_value?_iff {c : Char} :
    (∃ n, Alphabet.link.value? c = some n) ↔ IsLinkChar c ∨ c = '+' ∨ c = '/' := by
  rw [← Option.isSome_iff_exists]
  unfold Alphabet.value? IsLinkChar
  split_ifs <;> simp_all

theorem isLinkChar_char {n : Nat} (h : n < 64) : IsLinkChar (Alphabet.link.char n) := by
  have hmarks : Alphabet.link.char n ≠ '+' ∧ Alphabet.link.char n ≠ '/' := by
    revert n
    decide
  simpa [hmarks] using exists_value?_iff.mp ⟨n, value?_char .link h⟩

theorem mapM_value?_eq_some_iff {cs : List Char} {ns : List Nat} :
    cs.mapM Alphabet.link.value? = some ns ↔
      (∀ n ∈ ns, n < 64) ∧ cs.map linkForm = ns.map Alphabet.link.char := by
  induction cs generalizing ns with
  | nil => cases ns <;> simp
  | cons c cs ih =>
    rw [List.mapM_cons]
    cases ns with
    | nil => simp [Option.bind_eq_some_iff]
    | cons n ns =>
      simp only [Option.bind_eq_bind, Option.bind_eq_some_iff, Option.pure_def, Option.some_inj,
        List.cons.injEq, List.map_cons, List.forall_mem_cons, value?_eq_some_iff, ih]
      constructor
      · rintro ⟨m, ⟨hm, hc⟩, ms, ⟨hms, hcs⟩, rfl, rfl⟩
        exact ⟨⟨hm, hms⟩, hc, hcs⟩
      · rintro ⟨⟨hn, hns⟩, hc, hcs⟩
        exact ⟨n, ⟨hn, hc⟩, ns, ⟨hns, hcs⟩, rfl, rfl⟩

theorem exists_mapM_value?_iff {cs : List Char} :
    (∃ ns, cs.mapM Alphabet.link.value? = some ns) ↔
      ∀ c ∈ cs, IsLinkChar c ∨ c = '+' ∨ c = '/' := by
  induction cs with
  | nil => simp
  | cons c cs ih =>
    rw [List.forall_mem_cons, ← ih, ← exists_value?_iff]
    simp [Option.bind_eq_some_iff, List.mapM_cons]

/-! ## Groups -/

/-- How many bits of `n` characters fill no byte. -/
def spareBits (n : Nat) : Nat := 6 * n % 8

/-- The last of a list, if there is one, changed. -/
def changeLast {α : Type} (f : α → α) (xs : List α) : List α :=
  xs.dropLast ++ (xs.getLast?.map f).toList

/-- A number with its last `k` bits zero. -/
def clearBits (k n : Nat) : Nat := n / 2 ^ k * 2 ^ k

theorem changeLast_cons {α : Type} (f : α → α) (x y : α) (xs : List α) :
    changeLast f (x :: y :: xs) = x :: changeLast f (y :: xs) := by
  simp [changeLast]

theorem length_changeLast {α : Type} (f : α → α) (xs : List α) :
    (changeLast f xs).length = xs.length := by
  cases xs with
  | nil => rfl
  | cons x xs => simp [changeLast, List.getLast?_cons]

theorem changeLast_groups {ns : List Nat} (p q r s : Nat) :
    changeLast (clearBits (spareBits (ns.length + 4))) (p :: q :: r :: s :: ns) =
      p :: q :: r :: s :: changeLast (clearBits (spareBits ns.length)) ns := by
  have hspare : spareBits (ns.length + 4) = spareBits ns.length := by
    unfold spareBits
    omega
  rw [hspare, changeLast_cons, changeLast_cons, changeLast_cons]
  cases ns with
  | nil => simp [changeLast, clearBits, spareBits]
  | cons n ns => rw [changeLast_cons]

/-- Groups of six bits are put together into bytes unless a single one is left over. -/
theorem exists_regroup_iff {ns : List Nat} : (∃ bs, regroup ns = some bs) ↔ ns.length % 4 ≠ 1 := by
  fun_induction regroup ns with
  | case1 => simp
  | case2 n => simp
  | case3 p q => simp
  | case4 p q r => simp
  | case5 p q r s rest ih =>
    have hlen : (p :: q :: r :: s :: rest).length % 4 = rest.length % 4 := by
      simp only [List.length_cons]
      omega
    rw [hlen, ← ih]
    simp

/-- The bytes of a last group are written with its spare bits zero. -/
theorem sextets_of_regroup {ns : List Nat} {bs : Bytes} (h64 : ∀ n ∈ ns, n < 64)
    (h : regroup ns = some bs) :
    sextets bs = changeLast (clearBits (spareBits ns.length)) ns := by
  fun_induction regroup ns generalizing bs with
  | case1 =>
    cases h
    rfl
  | case2 n => cases h
  | case3 p q =>
    cases h
    simp only [List.forall_mem_cons] at h64
    obtain ⟨hp, hq, -⟩ := h64
    have hlast : changeLast (clearBits (spareBits [p, q].length)) [p, q] = [p, q / 16 * 16] := by
      simp [changeLast, clearBits, spareBits]
    have hx := Bytes.toNat_byte (show p * 4 + q / 16 < 256 by omega)
    have hfirst : (p * 4 + q / 16) / 4 = p := by omega
    have hsecond : (p * 4 + q / 16) % 4 * 16 = q / 16 * 16 := by omega
    rw [hlast, sextets, hx, hfirst, hsecond]
  | case4 p q r =>
    cases h
    simp only [List.forall_mem_cons] at h64
    obtain ⟨hp, hq, hr, -⟩ := h64
    have hlast : changeLast (clearBits (spareBits [p, q, r].length)) [p, q, r] =
      [p, q, r / 4 * 4] := by simp [changeLast, clearBits, spareBits]
    have hx := Bytes.toNat_byte (show p * 4 + q / 16 < 256 by omega)
    have hy := Bytes.toNat_byte (show q % 16 * 16 + r / 4 < 256 by omega)
    have hfirst : (p * 4 + q / 16) / 4 = p := by omega
    have hsecond : (p * 4 + q / 16) % 4 * 16 + (q % 16 * 16 + r / 4) / 16 = q := by omega
    have hthird : (q % 16 * 16 + r / 4) % 16 * 4 = r / 4 * 4 := by omega
    rw [hlast, sextets, hx, hy, hfirst, hsecond, hthird]
  | case5 p q r s rest ih =>
    obtain ⟨tail, htail, rfl⟩ := Option.map_eq_some_iff.mp h
    simp only [List.forall_mem_cons] at h64
    obtain ⟨hp, hq, hr, hs, hrest⟩ := h64
    have hx := Bytes.toNat_byte (show p * 4 + q / 16 < 256 by omega)
    have hy := Bytes.toNat_byte (show q % 16 * 16 + r / 4 < 256 by omega)
    have hz := Bytes.toNat_byte (show r % 4 * 64 + s < 256 by omega)
    have hfirst : (p * 4 + q / 16) / 4 = p := by omega
    have hsecond : (p * 4 + q / 16) % 4 * 16 + (q % 16 * 16 + r / 4) / 16 = q := by omega
    have hthird : (q % 16 * 16 + r / 4) % 16 * 4 + (r % 4 * 64 + s) / 64 = r := by omega
    have hfourth : (r % 4 * 64 + s) % 64 = s := by omega
    have hlen : (p :: q :: r :: s :: rest).length = rest.length + 4 := rfl
    rw [hlen, changeLast_groups, sextets, hx, hy, hz, hfirst, hsecond, hthird, hfourth,
      ih hrest htail]

/-- A text with the bits of its last character zero that fill no byte. -/
def clearSpare (cs : List Char) : List Char :=
  changeLast (fun c => match Alphabet.link.value? c with
    | some n => Alphabet.link.char (clearBits (spareBits cs.length) n)
    | none => c) cs

theorem clearSpare_map_char {ns : List Nat} (h64 : ∀ n ∈ ns, n < 64) :
    clearSpare (ns.map Alphabet.link.char) =
      (changeLast (clearBits (spareBits ns.length)) ns).map Alphabet.link.char := by
  unfold clearSpare changeLast
  rw [List.length_map, List.map_append, List.map_dropLast, List.getLast?_map]
  congr 1
  cases hlast : ns.getLast? with
  | none => rfl
  | some n =>
    have hn := h64 n (List.mem_of_getLast? hlast)
    simp [value?_char .link hn]

/-! ## Padding -/

/-- A text without the padding at its end. -/
def significant (text : List Char) : List Char := text.rdropWhile (· = '=')

theorem exists_padding (text : List Char) :
    ∃ k, text = significant text ++ List.replicate k '=' := by
  refine ⟨(text.rtakeWhile (· = '=')).length, ?_⟩
  have hpads : text.rtakeWhile (· = '=') =
      List.replicate (text.rtakeWhile (· = '=')).length '=' := by
    rw [List.eq_replicate_iff]
    refine ⟨rfl, ?_⟩
    intro c hc
    simpa using List.mem_rtakeWhile_imp hc
  rw [← hpads]
  exact List.rdropWhile_append_rtakeWhile.symm

theorem significant_append (text : List Char) (k : Nat) :
    significant (text ++ List.replicate k '=') = significant text := by
  induction k with
  | zero => simp
  | succ k ih =>
    rw [List.replicate_succ', ← List.append_assoc, significant,
      List.rdropWhile_concat_pos _ _ _ (by simp)]
    exact ih

theorem significant_eq_self {text : List Char} (h : '=' ∉ text) : significant text = text := by
  apply List.rdropWhile_eq_self_iff.mpr
  intro hne hlast
  apply h
  have hpad : text.getLast hne = '=' := by simpa using hlast
  rw [← hpad]
  exact List.getLast_mem hne

theorem takeWhile_of_decode {a : Alphabet} {text : List Char} {bs : Bytes}
    (h : decode a text = .ok bs) : text.takeWhile (· ≠ '=') = significant text := by
  have hpads : (text.dropWhile (· ≠ '=')).all (· = '=') = true := by
    unfold decode at h
    dsimp only at h
    split at h
    · cases h
    · split at h
      · next hcond =>
        rw [Bool.and_eq_true] at hcond
        exact hcond.1
      · cases h
  have hreplicate : text.dropWhile (· ≠ '=') =
      List.replicate (text.dropWhile (· ≠ '=')).length '=' := by
    rw [List.eq_replicate_iff]
    refine ⟨rfl, ?_⟩
    intro c hc
    simpa using List.all_eq_true.mp hpads c hc
  have hdata : '=' ∉ text.takeWhile (· ≠ '=') := by
    intro hmem
    simpa using List.mem_takeWhile_imp hmem
  have hsplit : text = text.takeWhile (· ≠ '=') ++ text.dropWhile (· ≠ '=') :=
    List.takeWhile_append_dropWhile.symm
  have hsame := significant_append (text.takeWhile (· ≠ '='))
    (text.dropWhile (· ≠ '=')).length
  rw [← hreplicate, ← hsplit, significant_eq_self hdata] at hsame
  exact hsame.symm

theorem not_mem_significant_of_decode {a : Alphabet} {text : List Char} {bs : Bytes}
    (h : decode a text = .ok bs) : '=' ∉ significant text := by
  rw [← takeWhile_of_decode h]
  intro hmem
  simpa using List.mem_takeWhile_imp hmem

/-- With what is missing put after it, padding fits if it was not too much. -/
theorem paddingFits_restored_iff {n k : Nat} :
    paddingFits n (k + (missing (n + k)).length) = true ↔
      n % 4 ≠ 1 ∧ (k ≤ (missing n).length ∨ n % 4 = 0 ∧ n ≠ 0) := by
  have hlen (m : Nat) : (missing m).length = (4 - m % 4) % 4 := List.length_replicate
  rw [hlen, hlen, paddingFits]
  have hcases : n % 4 = 0 ∨ n % 4 = 1 ∨ n % 4 = 2 ∨ n % 4 = 3 := by omega
  rcases hcases with h | h | h | h
  · simp [h]
    omega
  · simp [h]
  · simp [h]
    omega
  · simp [h]
    omega

theorem decodeUnpadded_append_eq_ok_iff {a : Alphabet} {cs : List Char} (hcs : '=' ∉ cs) {k : Nat}
    {bs : Bytes} : decodeUnpadded a (cs ++ List.replicate k '=') = .ok bs ↔
      (cs.mapM a.value?).bind regroup = some bs ∧
        cs.length % 4 ≠ 1 ∧
        (k ≤ (missing cs.length).length ∨ cs.length % 4 = 0 ∧ cs.length ≠ 0) := by
  have hlen : (cs ++ List.replicate k '=').length = cs.length + k := by simp
  have hmissing : missing (cs.length + k) =
      List.replicate (missing (cs.length + k)).length '=' := by
    rw [missing, List.length_replicate]
  rw [← paddingFits_restored_iff, decodeUnpadded, hlen, hmissing, List.append_assoc,
    List.replicate_append_replicate, decode_append_eq_ok_iff hcs, List.length_replicate]

/-! ## Whole texts -/

theorem length_sextets (bs : Bytes) : (sextets bs).length = 4 * bs.length ⌈/⌉ 3 := by
  rw [Nat.ceilDiv_eq_add_pred_div]
  fun_induction sextets bs with
  | case1 => rfl
  | case2 x => simp
  | case3 x y => simp
  | case4 x y z rest ih =>
    simp only [List.length_cons]
    omega

theorem length_mapM {cs : List Char} {ns : List Nat} (h : cs.mapM Alphabet.link.value? = some ns) :
    ns.length = cs.length := by
  have hlen := congrArg List.length (mapM_value?_eq_some_iff.mp h).2
  rw [List.length_map, List.length_map] at hlen
  exact hlen.symm

theorem exists_regroup_mapM_iff {cs : List Char} :
    (∃ bs, (cs.mapM Alphabet.link.value?).bind regroup = some bs) ↔
      (∀ c ∈ cs, IsLinkChar c ∨ c = '+' ∨ c = '/') ∧ cs.length % 4 ≠ 1 := by
  rw [← exists_mapM_value?_iff]
  constructor
  · rintro ⟨bs, h⟩
    obtain ⟨ns, hns, hbs⟩ := Option.bind_eq_some_iff.mp h
    refine ⟨⟨ns, hns⟩, ?_⟩
    rw [← length_mapM hns]
    exact exists_regroup_iff.mp ⟨bs, hbs⟩
  · rintro ⟨⟨ns, hns⟩, hlen⟩
    rw [← length_mapM hns] at hlen
    obtain ⟨bs, hbs⟩ := exists_regroup_iff.mpr hlen
    exact ⟨bs, by rw [hns, Option.bind_some, hbs]⟩

theorem encode_of_regroup_mapM {cs : List Char} {bs : Bytes}
    (h : (cs.mapM Alphabet.link.value?).bind regroup = some bs) :
    encode .link bs = clearSpare (cs.map linkForm) := by
  obtain ⟨ns, hns, hbs⟩ := Option.bind_eq_some_iff.mp h
  obtain ⟨h64, hchars⟩ := mapM_value?_eq_some_iff.mp hns
  rw [hchars, clearSpare_map_char h64, encode_eq_map, sextets_of_regroup h64 hbs]

/-- A text that is read: characters of either alphabet, not one alone in its group, and after them
no more padding than is missing. After whole groups there may be any amount of it. -/
structure LooseText (text : List Char) : Prop where
  chars : ∀ c ∈ significant text, IsLinkChar c ∨ c = '+' ∨ c = '/'
  groups : (significant text).length % 4 ≠ 1
  padding : text.length ≤ (significant text).length + (missing (significant text).length).length ∨
    (significant text).length % 4 = 0 ∧ (significant text).length ≠ 0

theorem LooseText.not_mem {text : List Char} (h : LooseText text) : '=' ∉ significant text := by
  intro hmem
  have hchar := h.chars _ hmem
  simp [IsLinkChar] at hchar

/-- What is decoded without padding: letters that make up whole bytes, with no more padding behind
them than is missing, or any amount where none is. -/
theorem decodeUnpadded_eq_ok_iff {text : List Char} (hpad : '=' ∉ significant text) {bs : Bytes} :
    decodeUnpadded .link text = .ok bs ↔
      ((significant text).mapM Alphabet.link.value?).bind regroup = some bs ∧
        (significant text).length % 4 ≠ 1 ∧
        (text.length ≤ (significant text).length + (missing (significant text).length).length ∨
          (significant text).length % 4 = 0 ∧ (significant text).length ≠ 0) := by
  obtain ⟨k, hk⟩ := exists_padding text
  have hlen := congrArg List.length hk
  rw [List.length_append, List.length_replicate] at hlen
  calc decodeUnpadded .link text = .ok bs
      ↔ decodeUnpadded .link (significant text ++ List.replicate k '=') = .ok bs := by rw [← hk]
    _ ↔ _ := decodeUnpadded_append_eq_ok_iff hpad
    _ ↔ _ := by rw [hlen, Nat.add_le_add_iff_left]

theorem not_mem_significant_of_decodeUnpadded {text : List Char} {bs : Bytes}
    (h : decodeUnpadded .link text = .ok bs) : '=' ∉ significant text := by
  have hnot := not_mem_significant_of_decode h
  rwa [missing, significant_append] at hnot

theorem exists_decodeUnpadded_iff {text : List Char} :
    (∃ bs, decodeUnpadded .link text = .ok bs) ↔ LooseText text := by
  constructor
  · rintro ⟨bs, h⟩
    obtain ⟨hbits, hgroups, hpadding⟩ :=
      (decodeUnpadded_eq_ok_iff (not_mem_significant_of_decodeUnpadded h)).mp h
    exact ⟨(exists_regroup_mapM_iff.mp ⟨bs, hbits⟩).1, hgroups, hpadding⟩
  · intro h
    obtain ⟨bs, hbits⟩ := exists_regroup_mapM_iff.mpr ⟨h.chars, h.groups⟩
    exact ⟨bs, (decodeUnpadded_eq_ok_iff h.not_mem).mpr ⟨hbits, h.groups, h.padding⟩⟩

theorem encode_of_decodeUnpadded {text : List Char} {bs : Bytes}
    (h : decodeUnpadded .link text = .ok bs) :
    encode .link bs = clearSpare ((significant text).map linkForm) := by
  have hpad := not_mem_significant_of_decodeUnpadded h
  exact encode_of_regroup_mapM ((decodeUnpadded_eq_ok_iff hpad).mp h).1

theorem ne_nil_of_decodeUnpadded {text : List Char} {bs : Bytes}
    (h : decodeUnpadded .link text = .ok bs) (htext : text ≠ []) : bs ≠ [] := by
  rintro rfl
  have hencode := congrArg List.length (encode_of_decodeUnpadded h)
  rw [clearSpare, length_changeLast, List.length_map] at hencode
  have hnone : (significant text).length = 0 := hencode.symm
  have hpadding := (exists_decodeUnpadded_iff.mp ⟨[], h⟩).padding
  -- Padding alone would have to be missing, but nothing is.
  rcases hpadding with hmissing | hwhole
  · rw [hnone] at hmissing
    exact htext (List.length_eq_zero_iff.mp (Nat.le_zero.mp hmissing))
  · exact hwhole.2 hnone

theorem eq_pad_of_linkForm {c : Char} (h : linkForm c = '=') : c = '=' := by
  unfold linkForm at h
  split_ifs at h <;> simp_all

/-- The text of some bytes, in whichever alphabet, with none, all or a part of its padding. -/
theorem decodeUnpadded_of_linkForm {text : List Char} {bs : Bytes} {k : Nat}
    (hk : k ≤ (missing (encode .link bs).length).length)
    (h : text.map linkForm = encode .link bs ++ List.replicate k '=') :
    decodeUnpadded .link text = .ok bs := by
  obtain ⟨cs, pads, rfl, hcs, hpads⟩ := List.map_eq_append_iff.mp h
  have hreplicate : pads = List.replicate k '=' := by
    rw [List.eq_replicate_iff]
    constructor
    · have := congrArg List.length hpads
      simpa using this
    · intro c hc
      apply eq_pad_of_linkForm
      apply List.eq_of_mem_replicate (n := k)
      rw [← hpads]
      exact List.mem_map_of_mem hc
  have hpad : '=' ∉ cs := by
    intro hmem
    have := List.mem_map_of_mem (f := linkForm) hmem
    rw [hcs] at this
    obtain ⟨n, hn, heq⟩ := mem_encode this
    exact char_ne_pad .link hn heq.symm
  have hlen := congrArg List.length hcs
  rw [List.length_map] at hlen
  rw [encode_eq_map] at hcs
  have hns := mapM_value?_eq_some_iff.mpr ⟨sextets_lt bs, hcs⟩
  rw [hreplicate, decodeUnpadded_append_eq_ok_iff hpad, hns, Option.bind_some, regroup_sextets,
    hlen]
  refine ⟨rfl, ?_, .inl hk⟩
  rw [encode_eq_map, List.length_map]
  exact length_sextets_mod bs

end Base64

/-! ## Members of web keys -/

namespace WebKey

open Base64

theorem length_bytesText (bs : Bytes) : (bytesText bs).length = 4 * bs.length ⌈/⌉ 3 := by
  rw [bytesText, String.length_ofList, encode_eq_map, List.length_map, length_sextets]

theorem isLinkChar_of_mem_bytesText {bs : Bytes} {c : Char} (h : c ∈ (bytesText bs).toList) :
    IsLinkChar c := by
  rw [bytesText, String.toList_ofList] at h
  obtain ⟨n, hn, rfl⟩ := mem_encode h
  exact isLinkChar_char hn

/-- What is no text of bytes is refused as an encoding, whatever member it stands in. -/
theorem decodeMember_cases (name text : String) :
    (∃ bs, decodeMember name text = .ok bs ∧ decodeUnpadded .link text.toList = .ok bs) ∨
      ∃ e, decodeMember name text = .error (.conversion e) ∧ e.kind = .invalidEncoding ∧
        ¬LooseText text.toList := by
  unfold decodeMember
  cases hread : decodeUnpadded .link text.toList with
  | ok bs => exact .inl ⟨bs, rfl, rfl⟩
  | error fault =>
    refine .inr ⟨_, rfl, rfl, ?_⟩
    intro hloose
    obtain ⟨bs, hbs⟩ := exists_decodeUnpadded_iff.mpr hloose
    rw [hread] at hbs
    cases hbs

/-- A text of a wrong length or with a foreign character is no loose text. -/
theorem not_looseText {text : List Char} (h : (significant text).length % 4 = 1 ∨
    ∃ c ∈ text, c ≠ '=' ∧ ¬(IsLinkChar c ∨ c = '+' ∨ c = '/')) : ¬LooseText text := by
  intro hloose
  rcases h with hgroups | ⟨c, hc, hne, hother⟩
  · exact hloose.groups hgroups
  · apply hother
    apply hloose.chars
    obtain ⟨k, hk⟩ := exists_padding text
    rw [hk, List.mem_append] at hc
    rcases hc with hc | hc
    · exact hc
    · exact absurd (List.eq_of_mem_replicate hc) hne

theorem required_ne_nil {name : String} {value : Option String} {bs : Bytes}
    (h : required name value = .ok bs) : bs ≠ [] := by
  unfold required at h
  split at h
  · cases h
  · next text =>
    split at h
    · cases h
    · next hne =>
      apply ne_nil_of_decodeUnpadded (decodeMember_eq_ok.mp h)
      intro hnil
      apply hne
      rw [String.isEmpty_iff]
      exact String.toList_eq_nil_iff.mp hnil

/-- Bytes are written in the alphabet for links, four characters for three bytes, and read back with
or without padding, in either alphabet or both. Conversely a text that is read is what its bytes are
written as, up to the alphabet, padding and spare bits, and only the empty one holds no bytes. All
other texts are refused as an encoding, among them those with a single character left over and those
with any character that is neither of an alphabet nor padding. -/
theorem member_texts_inverted (name text : String) (bs : Bytes) :
    ((∀ c ∈ (bytesText bs).toList, IsLinkChar c) ∧
      (bytesText bs).length = 4 * bs.length ⌈/⌉ 3) ∧
    (∀ k ≤ (missing (bytesText bs).length).length,
      text.toList.map linkForm = (bytesText bs).toList ++ List.replicate k '=' →
        decodeMember name text = .ok bs) ∧
    (decodeMember name text = .ok bs →
      (bytesText bs).toList = clearSpare ((significant text.toList).map linkForm) ∧
        (text ≠ "" → bs ≠ [])) ∧
    ((∃ bs, decodeMember name text = .ok bs) ↔ LooseText text.toList) ∧
    ((∃ e, decodeMember name text = .error (.conversion e) ∧ e.kind = .invalidEncoding) ↔
      ¬LooseText text.toList) ∧
    ((significant text.toList).length % 4 = 1 ∨
      (∃ c ∈ text.toList, c ≠ '=' ∧ ¬(IsLinkChar c ∨ c = '+' ∨ c = '/')) →
        ∃ e, decodeMember name text = .error (.conversion e) ∧ e.kind = .invalidEncoding) ∧
    ∀ value, required name value = .ok bs → bs ≠ [] := by
  have hwritten : (bytesText bs).toList = encode .link bs := String.toList_ofList
  have hlength : (bytesText bs).length = (encode .link bs).length := String.length_ofList
  have hrefused : (∃ e, decodeMember name text = .error (.conversion e) ∧
      e.kind = .invalidEncoding) ↔ ¬LooseText text.toList := by
    rcases decodeMember_cases name text with ⟨bytes, hok, hread⟩ | ⟨e, herror, hkind, hloose⟩
    · simp [hok, exists_decodeUnpadded_iff.mp ⟨bytes, hread⟩]
    · simp [herror, hkind, hloose]
  refine ⟨⟨fun c => isLinkChar_of_mem_bytesText, length_bytesText bs⟩, ?_, ?_, ?_, hrefused, ?_,
    fun value => required_ne_nil⟩
  · intro k hk htext
    rw [hlength] at hk
    rw [hwritten] at htext
    exact decodeMember_eq_ok.mpr (decodeUnpadded_of_linkForm hk htext)
  · intro hread
    rw [decodeMember_eq_ok] at hread
    rw [hwritten]
    refine ⟨encode_of_decodeUnpadded hread, ?_⟩
    intro htext
    apply ne_nil_of_decodeUnpadded hread
    exact fun hnil => htext (String.toList_eq_nil_iff.mp hnil)
  · rw [← exists_decodeUnpadded_iff]
    simp only [decodeMember_eq_ok]
  · intro hbad
    exact hrefused.mpr (not_looseText hbad)

/-- Two bytes in a mixture of both alphabets, once padded and once with a spare bit set, and a text
with a blank. -/
theorem mixed_texts_read :
    decodeMember "x" "+_8=" = .ok [251, 255] ∧
      (bytesText [251, 255]).toList = clearSpare ['-', '_', '9'] ∧
      ∃ e, decodeMember "x" "-_8 " = .error (.conversion e) ∧ e.kind = .invalidEncoding := by
  have hpadded := (member_texts_inverted "x" "+_8=" [251, 255]).2.1 1 (by decide) (by decide)
  have hread : decodeMember "x" "+_9" = .ok [251, 255] := by rfl
  have hblank : ∃ c ∈ "-_8 ".toList, c ≠ '=' ∧ ¬(IsLinkChar c ∨ c = '+' ∨ c = '/') :=
    ⟨' ', by decide, by decide, by simp [IsLinkChar]⟩
  exact ⟨hpadded, ((member_texts_inverted "x" "+_9" [251, 255]).2.2.1 hread).1,
    (member_texts_inverted "x" "-_8 " []).2.2.2.2.2.1 (.inr hblank)⟩

end WebKey

end WebKeys
