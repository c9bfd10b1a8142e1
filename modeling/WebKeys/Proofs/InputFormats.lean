import WebKeys.CommandLine.Run
import WebKeys.Proofs.ArgumentLists
import WebKeys.Proofs.Base64
import WebKeys.Proofs.JsonStrings

/-!
# Input formats

The bytes of a key may be given as they are, in hexadecimal or in base 64, and a text may have white
space anywhere (`Spaced`). A conversion comes to the same whichever of them is used: each gives back
the bytes that it spells (`decodeInput_of_spells`), and from there on nothing knows of the format.

A hexadecimal text is read exactly if it spells some bytes, that is, if apart from its white space
it is an even number of digits.
-/

namespace WebKeys

open Outcome

/-! ## Hexadecimal text in either case -/

namespace Hex

/-- A character is a digit in either case. -/
def IsDigit (c : Char) : Prop :=
  '0' ≤ c ∧ c ≤ '9' ∨ 'a' ≤ c ∧ c ≤ 'f' ∨ 'A' ≤ c ∧ c ≤ 'F'

theorem isSome_digit?_iff {c : Char} : (digit? c).isSome ↔ IsDigit c := by
  unfold digit? IsDigit
  split
  · next h => simp [h]
  · split
    · next h => simp [h]
    · split <;> simp [*]

theorem IsDigit.range {c : Char} (h : IsDigit c) : 32 < c.toNat ∧ c.toNat < 128 := by
  simp only [IsDigit, Char.le_def, UInt32.le_iff_toNat_le] at h
  change 48 ≤ c.toNat ∧ c.toNat ≤ 57 ∨ 97 ≤ c.toNat ∧ c.toNat ≤ 102 ∨
    65 ≤ c.toNat ∧ c.toNat ≤ 70 at h
  omega

theorem lt_of_digit?_of_ascii : ∀ k < 128, ∀ n, digit? (Char.ofNat k) = some n → n < 16 := by
  decide

/-- In ASCII, the digits are the characters whose small form is written for them. -/
theorem digit?_iff_of_ascii : ∀ k < 128, ∀ n < 16,
    (digit? (Char.ofNat k) = some n ↔ (Char.ofNat k).toLower = digit n) := by
  decide +kernel

theorem digit_lt_128 {n : Nat} (h : n < 16) : (digit n).toNat < 128 := by
  revert n
  decide

theorem toLower_of_not_ascii {c : Char} (h : 128 ≤ c.toNat) : c.toLower = c := by
  unfold Char.toLower
  rw [dif_neg]
  rintro ⟨-, hle⟩
  have hle : c.toNat ≤ 90 := UInt32.le_iff_toNat_le.mp hle
  omega

theorem digit?_eq_some_iff {c : Char} {n : Nat} :
    digit? c = some n ↔ n < 16 ∧ c.toLower = digit n := by
  by_cases hascii : c.toNat < 128
  · have hlt := lt_of_digit?_of_ascii c.toNat hascii n
    have hiff := digit?_iff_of_ascii c.toNat hascii n
    rw [Char.ofNat_toNat] at hlt hiff
    exact ⟨fun h => ⟨hlt h, (hiff (hlt h)).mp h⟩, fun ⟨hn, h⟩ => (hiff hn).mpr h⟩
  · refine iff_of_false (fun h => ?_) ?_
    · exact hascii (isSome_digit?_iff.mp (Option.isSome_of_eq_some h)).range.2
    · rintro ⟨hn, h⟩
      rw [toLower_of_not_ascii (Nat.not_lt.mp hascii)] at h
      exact hascii (h ▸ digit_lt_128 hn)

theorem decode?_cons_cons {high low : Char} {rest : List Char} {bs : Bytes} :
    decode? (high :: low :: rest) = some bs ↔ ∃ h l bs', digit? high = some h ∧
      digit? low = some l ∧ decode? rest = some bs' ∧ bs = UInt8.ofNat (16 * h + l) :: bs' := by
  rw [decode?]
  split
  · next h l bs' hhigh hlow hrest => simp [hhigh, hlow, hrest, eq_comm]
  · next hnone =>
    refine iff_of_false (by simp) ?_
    rintro ⟨h, l, bs', hhigh, hlow, hrest, -⟩
    exact hnone h l bs' hhigh hlow hrest

/-- The texts of some bytes are those that are written for them, but for the case of the digits. -/
theorem decode?_eq_some_iff (cs : List Char) {bs : Bytes} :
    decode? cs = some bs ↔ cs.map Char.toLower = encode bs := by
  match cs with
  | [] => cases bs <;> simp [decode?, encode]
  | [c] => cases bs <;> simp [decode?, encode]
  | high :: low :: rest =>
    have ih {bs : Bytes} : decode? rest = some bs ↔ rest.map Char.toLower = encode bs :=
      decode?_eq_some_iff rest
    rw [decode?_cons_cons, List.map_cons, List.map_cons]
    constructor
    · rintro ⟨h, l, bs', hhigh, hlow, hrest, rfl⟩
      rw [digit?_eq_some_iff] at hhigh hlow
      have hb : (UInt8.ofNat (16 * h + l)).toNat = 16 * h + l :=
        UInt8.toNat_ofNat_of_lt (Nat.lt_of_lt_of_le (by omega) (by decide : 256 ≤ UInt8.size))
      have hdiv : (16 * h + l) / 16 = h := by omega
      have hmod : (16 * h + l) % 16 = l := by omega
      rw [encode, hb, hdiv, hmod, hhigh.2, hlow.2, ih.mp hrest]
    · intro heq
      cases bs with
      | nil => cases heq
      | cons b bs =>
        have hlt := b.toNat_lt
        rw [encode, List.cons.injEq, List.cons.injEq] at heq
        obtain ⟨hhigh, hlow, hrest⟩ := heq
        refine ⟨b.toNat / 16, b.toNat % 16, bs, digit?_eq_some_iff.mpr ⟨by omega, hhigh⟩,
          digit?_eq_some_iff.mpr ⟨by omega, hlow⟩, ih.mpr hrest, ?_⟩
        rw [Nat.div_add_mod, UInt8.ofNat_toNat]

/-- A text is read exactly if it is an even number of digits. -/
theorem exists_decode?_iff (cs : List Char) :
    (∃ bs, decode? cs = some bs) ↔ cs.length % 2 = 0 ∧ ∀ c ∈ cs, (digit? c).isSome := by
  match cs with
  | [] => simp [decode?]
  | [c] => simp [decode?]
  | high :: low :: rest =>
    have hstep : (∃ bs, decode? (high :: low :: rest) = some bs) ↔
        (digit? high).isSome ∧ (digit? low).isSome ∧ ∃ bs, decode? rest = some bs := by
      simp only [decode?_cons_cons, Option.isSome_iff_exists]
      constructor
      · rintro ⟨_, h, l, bs', hhigh, hlow, hrest, -⟩
        exact ⟨⟨h, hhigh⟩, ⟨l, hlow⟩, bs', hrest⟩
      · rintro ⟨⟨h, hhigh⟩, ⟨l, hlow⟩, bs', hrest⟩
        exact ⟨_, h, l, bs', hhigh, hlow, hrest, rfl⟩
    have heven : (high :: low :: rest).length % 2 = rest.length % 2 :=
      Nat.add_mod_right rest.length 2
    rw [hstep, exists_decode?_iff rest, List.forall_mem_cons, List.forall_mem_cons, heven]
    tauto

end Hex

namespace CommandLine

/-! ## White space -/

/-- The text has the characters of the other one, and white space between them. -/
inductive Spaced : Bytes → Bytes → Prop
  | nil : Spaced [] []
  | space {b : UInt8} {text bare : Bytes} (hb : isSpace b = true) (h : Spaced text bare) :
    Spaced (b :: text) bare
  | keep {text bare : Bytes} (b : UInt8) (h : Spaced text bare) : Spaced (b :: text) (b :: bare)

theorem filter_of_spaced {text bare : Bytes} (h : Spaced text bare)
    (hbare : ∀ b ∈ bare, isSpace b = false) : text.filter (fun b => !isSpace b) = bare := by
  induction h with
  | nil => rfl
  | space hb _ ih =>
    rw [List.filter_cons_of_neg (by simp [hb]), ih hbare]
  | keep b _ ih =>
    rw [List.forall_mem_cons] at hbare
    rw [List.filter_cons_of_pos (by simp [hbare.1]), ih hbare.2]

theorem spaced_filter (text : Bytes) : Spaced text (text.filter fun b => !isSpace b) := by
  induction text with
  | nil => exact .nil
  | cons b text ih =>
    cases hb : isSpace b with
    | true =>
      rw [List.filter_cons_of_neg (by simp [hb])]
      exact .space hb ih
    | false =>
      rw [List.filter_cons_of_pos (by simp [hb])]
      exact .keep b ih

theorem isSpace_of_lt {b : UInt8} (h : 32 < b.toNat) : isSpace b = false := by
  have hle : ¬b ≤ 13 := by
    rw [UInt8.le_iff_toNat_le]
    exact Nat.not_le.mpr (Nat.lt_trans (by decide) h)
  have hne : b ≠ 32 := by
    rintro rfl
    exact absurd h (by decide)
  simp [isSpace, hle, hne]

theorem toNat_character (b : UInt8) : (Char.ofNat b.toNat).toNat = b.toNat := by
  have hlt := b.toNat_lt
  have hvalid : b.toNat.isValidChar := Or.inl (by omega)
  rw [Char.toNat_ofNat, if_pos hvalid]

/-- Characters behind the blank are no white space. -/
theorem isSpace_of_characters {bare : Bytes} {cs : List Char} (h : characters bare = cs)
    (hcs : ∀ c ∈ cs, 32 < c.toNat) : ∀ b ∈ bare, isSpace b = false := by
  subst h
  intro b hb
  have hlt := hcs _ (List.mem_map_of_mem hb)
  rw [toNat_character] at hlt
  exact isSpace_of_lt hlt

/-! ## What a text spells -/

/-- In the input format, the text stands for the bytes. -/
inductive Spells : InputFormat → Bytes → Bytes → Prop
  | raw (bs : Bytes) : Spells .raw bs bs
  | hex {text bare bs : Bytes} (hspaced : Spaced text bare)
    (hdigits : (characters bare).map Char.toLower = Hex.encode bs) : Spells .hex text bs
  | base64 {text bare bs : Bytes} (hspaced : Spaced text bare)
    (hchars : characters bare = Base64.encodePadded .standard bs) : Spells .base64 text bs

theorem lt_of_mem_encodePadded {bs : Bytes} {c : Char}
    (h : c ∈ Base64.encodePadded .standard bs) : 32 < c.toNat := by
  have hchar : ∀ n < 64, 32 < (Base64.Alphabet.standard.char n).toNat := by decide
  obtain h | h := List.mem_append.mp h
  · obtain ⟨n, hn, rfl⟩ := Base64.mem_encode h
    exact hchar n hn
  · rw [List.eq_of_mem_replicate h]
    decide

/-- Every spelling of some bytes is decoded to them. -/
theorem decodeInput_of_spells {f : InputFormat} {text bs : Bytes} (h : Spells f text bs) :
    decodeInput f text = .ok bs := by
  cases h with
  | raw => rfl
  | @hex _ bare _ hspaced hdigits =>
    have hread := (Hex.decode?_eq_some_iff _).mpr hdigits
    have hdigit := ((Hex.exists_decode?_iff _).mp ⟨bs, hread⟩).2
    have hblank := isSpace_of_characters rfl fun c hc =>
      (Hex.isSome_digit?_iff.mp (hdigit c hc)).range.1
    rw [decodeInput, filter_of_spaced hspaced hblank, hread]
  | base64 hspaced hchars =>
    have hblank := isSpace_of_characters hchars fun c hc => lt_of_mem_encodePadded hc
    rw [decodeInput, filter_of_spaced hspaced hblank, hchars, Base64.decode_encodePadded]
    rfl

/-- A hexadecimal text is read exactly if it spells something, and then as what it spells. -/
theorem decodeInput_hex_iff {text bs : Bytes} :
    decodeInput .hex text = .ok bs ↔ Spells .hex text bs := by
  refine ⟨fun h => ?_, decodeInput_of_spells⟩
  rw [decodeInput] at h
  split at h
  · next bs' hread =>
    cases h
    exact .hex (spaced_filter text) ((Hex.decode?_eq_some_iff _).mp hread)
  · cases h

theorem exists_decodeInput_hex_iff {text : Bytes} :
    (∃ bs, decodeInput .hex text = .ok bs) ↔
      (text.filter fun b => !isSpace b).length % 2 = 0 ∧
        ∀ c ∈ characters (text.filter fun b => !isSpace b), Hex.IsDigit c := by
  have hread : (∃ bs, decodeInput .hex text = .ok bs) ↔
      ∃ bs, Hex.decode? (characters (text.filter fun b => !isSpace b)) = some bs := by
    rw [decodeInput]
    split <;> simp [*]
  rw [hread, Hex.exists_decode?_iff, characters, List.length_map]
  simp only [Hex.isSome_digit?_iff]

/-- White space may part the digits of a byte, and a single digit is none. -/
example : Spells .hex [97, 32, 66] [0xAB] ∧ ∃ fault, decodeInput .hex [97, 32] = .error fault :=
  ⟨decodeInput_hex_iff.mp rfl, _, rfl⟩

/-! ## Converting what is spelled -/

/-- The program is started to convert these bytes: the arguments ask for it, and the input spells
the bytes in the format that they name. -/
structure Invocation.Supplies (i : Invocation) (g : GeneralArguments) (a : ConvertArguments)
    (bs : Bytes) : Prop where
  asked : Arguments.read i.arguments = .ok ⟨g, some (.convert a)⟩
  possible : a.source.isPossible = true
  spelled : ∃ text, i.input a.source = .ok text ∧ Spells a.input text bs

/-- A conversion knows no more of its input than the bytes that it spells. -/
theorem convert_congr {colours : Bool} {input input' : Source → Except ReadFault Bytes}
    {a a' : ConvertArguments} {text text' bs : Bytes} (htype : a.keyType = a'.keyType)
    (hformat : a.format = a'.format) (hkid : a.kid = a'.kid)
    (hpossible : a.source.isPossible = true) (hpossible' : a'.source.isPossible = true)
    (htext : input a.source = .ok text) (htext' : input' a'.source = .ok text')
    (hbs : decodeInput a.input text = .ok bs) (hbs' : decodeInput a'.input text' = .ok bs)
    (s : Session) : convert colours input a s = convert colours input' a' s := by
  unfold convert
  rw [htype]
  split
  · rfl
  · rw [hpossible, hpossible', htext, htext']
    dsimp only
    rw [hbs, hbs', hformat, hkid]

/-- A run depends on its command only through what the command does. -/
theorem runWith_congr {i : Invocation} {arguments : List String}
    {input : Source → Except ReadFault Bytes} {g : GeneralArguments} {c c' : Command}
    (h : ∀ colours s, perform colours i.input c s = perform colours input c' s) :
    runWith i ⟨g, some c⟩ =
      runWith { i with arguments := arguments, input := input } ⟨g, some c'⟩ := by
  have hperform (colours : Bool) : perform colours i.input c = perform colours input c' :=
    funext (h colours)
  dsimp only [runWith]
  generalize Session.setUpJournal _ _ _ = ready
  obtain ⟨setup, s⟩ := ready
  cases setup with
  | error e => rfl
  | ok setup =>
    dsimp only
    rw [hperform]

/-- Two runs that convert the same bytes in the same way come to the same, from the exit code to the
journal, whatever the formats that their inputs are in and wherever they stand. Every conversion can
be asked for, but for one from a file named `--`. In each format a text is read as the bytes that it
spells; a hexadecimal one is not read otherwise, and spells some bytes exactly if it is an even
number of digits, white space aside. -/
theorem input_formats_equivalent :
    (∀ (i : Invocation) (arguments : List String) (input : Source → Except ReadFault Bytes)
        (g : GeneralArguments) (a a' : ConvertArguments) (bs : Bytes),
      i.Supplies g a bs →
      Invocation.Supplies { i with arguments := arguments, input := input } g a' bs →
      a.keyType = a'.keyType → a.format = a'.format → a.kid = a'.kid →
      run i = run { i with arguments := arguments, input := input }) ∧
    (∀ (g : GeneralArguments) (a : ConvertArguments), a.file ≠ some "--" →
      Arguments.read (commandLine g a) = .ok ⟨g, some (.convert a)⟩) ∧
    (∀ (f : InputFormat) (text bs : Bytes), Spells f text bs → decodeInput f text = .ok bs) ∧
    ∀ text : Bytes, (∀ bs, decodeInput .hex text = .ok bs ↔ Spells .hex text bs) ∧
      ((∃ bs, decodeInput .hex text = .ok bs) ↔
        (text.filter fun b => !isSpace b).length % 2 = 0 ∧
          ∀ c ∈ characters (text.filter fun b => !isSpace b), Hex.IsDigit c) := by
  refine ⟨?_, fun g a hfile => read_commandLine g a hfile, fun f text bs => decodeInput_of_spells,
    fun text => ⟨fun bs => decodeInput_hex_iff, exists_decodeInput_hex_iff⟩⟩
  intro i arguments input g a a' bs h h' htype hformat hkid
  obtain ⟨text, htext, hspells⟩ := h.spelled
  obtain ⟨text', htext', hspells'⟩ := h'.spelled
  unfold run
  rw [h.asked, h'.asked]
  refine runWith_congr fun colours s => ?_
  exact convert_congr htype hformat hkid h.possible h'.possible htext htext'
    (decodeInput_of_spells hspells) (decodeInput_of_spells hspells') s

/-- A key in digits of both cases with blanks, and in base 64 over two lines. -/
theorem hex_and_base64_converted :
    let digits : Bytes := (List.replicate 32 [97, 66, 32]).flatten
    let groups : Bytes := (List.replicate 10 [113, 54, 117, 114]).flatten
      ++ [10, 113, 54, 115, 61, 10]
    let i : Invocation :=
      { arguments := ["convert", "ED25519", "--input-format=hex", "--kid", "k1"]
        input := fun _ => .ok digits
        correlation := ""
        entropy := { seed := [] } }
    run i = run { i with
      arguments := ["convert", "--kid=k1", "ED25519", "key.txt", "--input-format", "base64"]
      input := fun _ => .ok groups } := by
  intro digits groups i
  refine input_formats_equivalent.1 i _ _ {}
    { keyType := "ED25519", input := .hex, kid := some "k1" }
    { keyType := "ED25519", file := some "key.txt", input := .base64, kid := some "k1" }
    (List.replicate 32 171) ⟨rfl, rfl, digits, rfl, ?_⟩ ⟨rfl, ?_, groups, rfl, ?_⟩ rfl rfl rfl
  · exact .hex (spaced_filter digits) rfl
  · simp [ConvertArguments.source, Source.isPossible]
  · exact .base64 (spaced_filter groups) rfl

end CommandLine

end WebKeys
