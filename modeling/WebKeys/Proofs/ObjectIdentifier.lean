import WebKeys.Der.ObjectId
import WebKeys.Proofs.Bytes
import WebKeys.Proofs.Numeral

/-!
# Object identifiers have one form

As bytes: the numbers read are exactly those written (`numbers_eq_ok_iff`), and the first two arcs
are joined as they were split (`joinFirst?_splitFirst`). As text: arcs in decimal between dots
are read as they were written (`parse_text`). Together, a byte string is what `encode` makes of its
dotted form (`encode_of_decode`), and no two byte strings share one. Conversely a dotted form that
is `Canonical`, and whose arcs can be read, is the form of the bytes that it is written as
(`decode_of_canonical`).
-/

namespace WebKeys.ObjectId

open Outcome

attribute [local instance (2000)] instPowNat

/-! ## Numbers in base 128 -/

theorem leadingDigits_zero : leadingDigits 0 = [] := by
  rw [leadingDigits]
  simp

theorem leadingDigits_of_ne_zero {n : Nat} (h : n ≠ 0) :
    leadingDigits n = leadingDigits (n / 128) ++ [UInt8.ofNat (128 + n % 128)] := by
  rw [leadingDigits, dif_neg h]

theorem toNat_leading (n : Nat) : (UInt8.ofNat (128 + n % 128)).toNat = 128 + n % 128 :=
  Bytes.toNat_byte (by omega)

theorem toNat_last (n : Nat) : (UInt8.ofNat (n % 128)).toNat = n % 128 :=
  Bytes.toNat_byte (by omega)

theorem leading_not_lt (n : Nat) : ¬UInt8.ofNat (128 + n % 128) < 128 := by
  rw [UInt8.lt_iff_toNat_lt, toNat_leading]
  exact Nat.not_lt.mpr (Nat.le_add_right 128 _)

theorem last_lt (n : Nat) : UInt8.ofNat (n % 128) < 128 := by
  rw [UInt8.lt_iff_toNat_lt, toNat_last]
  exact Nat.mod_lt n (by decide)

/-- What reading `b` makes of a number that has begun. -/
theorem numbers_some_cons (m : Nat) (b : UInt8) (rest : Bytes) :
    numbers (some m) (b :: rest) =
      if b < 128 then (numbers none rest).map ((128 * m + b.toNat % 128) :: ·)
      else numbers (some (128 * m + b.toNat % 128)) rest := by
  simp [numbers]

theorem numbers_none_cons {b : UInt8} (h : b ≠ 128) (rest : Bytes) :
    numbers none (b :: rest) =
      if b < 128 then (numbers none rest).map (b.toNat % 128 :: ·)
      else numbers (some (b.toNat % 128)) rest := by
  simp [numbers, h]

/-- The part of a number before its last digit leaves that part pending. The induction is on the
number, digit by digit from the right; a single digit is the case that must not be zero. -/
theorem numbers_leadingDigits {n : Nat} (h : n ≠ 0) (rest : Bytes) :
    numbers none (leadingDigits n ++ rest) = numbers (some n) rest := by
  induction n using Nat.strongRecOn generalizing rest with
  | ind n ih =>
    rw [leadingDigits_of_ne_zero h, List.append_assoc, List.singleton_append]
    by_cases hsmall : n / 128 = 0
    · have hlt : n % 128 = n := by omega
      have hne : UInt8.ofNat (128 + n % 128) ≠ 128 := by
        intro heq
        have htoNat := congrArg UInt8.toNat heq
        rw [toNat_leading] at htoNat
        have : (128 : UInt8).toNat = 128 := rfl
        omega
      rw [hsmall, leadingDigits_zero, List.nil_append, numbers_none_cons hne,
        if_neg (leading_not_lt n), toNat_leading, Nat.add_mod_left, Nat.mod_mod, hlt]
    · rw [ih (n / 128) (by omega) hsmall, numbers_some_cons, if_neg (leading_not_lt n),
        toNat_leading, Nat.add_mod_left, Nat.mod_mod, Nat.div_add_mod]

/-- A number in groups of seven bits is read back as it. -/
theorem numbers_base128 (n : Nat) (rest : Bytes) :
    numbers none (base128 n ++ rest) = (numbers none rest).map (n :: ·) := by
  unfold base128
  rw [List.append_assoc, List.singleton_append]
  by_cases hsmall : n / 128 = 0
  · have hlt : n % 128 = n := by omega
    have hne : UInt8.ofNat (n % 128) ≠ 128 := fun heq => by
      have := last_lt n
      rw [heq] at this
      exact absurd this (by decide)
    rw [hsmall, leadingDigits_zero, List.nil_append, numbers_none_cons hne, if_pos (last_lt n),
      toNat_last, Nat.mod_mod, hlt]
  · rw [numbers_leadingDigits hsmall, numbers_some_cons, if_pos (last_lt n), toNat_last,
      Nat.mod_mod, Nat.div_add_mod]

theorem numbers_flatMap_base128 (ns : List Nat) :
    numbers none (ns.flatMap base128) = .ok ns := by
  induction ns with
  | nil => rfl
  | cons n ns ih => rw [List.flatMap_cons, numbers_base128, ih]; rfl

/-! ### Writing whole numbers -/

theorem natCast_div (n : Nat) : (n : Int) / 128 = (n / 128 : Nat) := by omega

theorem toNat_natCast_mod (n : Nat) : ((n : Int) % 128).toNat = n % 128 := by omega

theorem next_natCast (n : Nat) (written : Bytes) : Writing.next ⟨n, written⟩ =
    ⟨(n / 128 : Nat), UInt8.ofNat (128 + n % 128) :: written⟩ := by
  rw [Writing.next, natCast_div, toNat_natCast_mod]

theorem finish?_natCast (n : Nat) (written : Bytes) :
    Writing.finish? ⟨n, written⟩ = some (leadingDigits n ++ written) := by
  induction n using Nat.strongRecOn generalizing written with
  | ind n ih =>
    rw [Writing.finish?]
    by_cases hzero : n = 0
    · rw [if_pos (by dsimp only; omega), hzero, leadingDigits_zero, List.nil_append]
    · rw [if_neg (by dsimp only; omega), next_natCast, ih (n / 128) (by omega),
        leadingDigits_of_ne_zero hzero, List.append_assoc, List.singleton_append]

/-- A negative number has no digits: whatever is written of it, a negative number is left. -/
theorem finish?_of_neg {w : Writing} (h : w.left < 0) : w.finish? = none := by
  rw [Option.eq_none_iff_forall_ne_some]
  intro bs hbs
  have hnonneg : 0 ≤ w.left := by
    refine Writing.finish?.partial_correctness (fun w _ => 0 ≤ w.left) ?_ w bs hbs
    intro finish ih w bs hbs
    split at hbs
    · omega
    · have hnext : 0 ≤ w.left / 128 := ih _ _ hbs
      omega
  omega

theorem base128?_natCast (n : Nat) : base128? (n : Int) = some (base128 n) := by
  rw [base128?, natCast_div, toNat_natCast_mod, finish?_natCast, base128]

theorem base128?_of_neg {n : Int} (h : n < 0) : base128? n = none :=
  finish?_of_neg (by dsimp only; omega)

theorem mapM_base128?_natCast (ns : List Nat) :
    (ns.map Int.ofNat).mapM base128? = some (ns.map base128) := by
  induction ns with
  | nil => rfl
  | cons n ns ih =>
    rw [List.map_cons, List.mapM_cons, ih, Int.ofNat_eq_natCast, base128?_natCast]
    rfl

/-! ### Reading what was written -/

/-- The bytes of a number that has begun, and of one that has not. -/
def pendingDigits (pending : Option Nat) : Bytes := leadingDigits (pending.getD 0)

/-- Reading a byte prolongs the bytes of the pending number by that byte: as a leading digit if it
is marked, and as the last one if it is not. -/
theorem pendingDigits_append {pending : Option Nat} {b : UInt8}
    (h : ¬(pending.isNone ∧ b = 128)) (hpos : ∀ m ∈ pending, m ≠ 0) :
    (b < 128 → pendingDigits pending ++ [b] = base128 (128 * pending.getD 0 + b.toNat % 128)) ∧
    (¬b < 128 → 128 * pending.getD 0 + b.toNat % 128 ≠ 0 ∧
      pendingDigits pending ++ [b] = leadingDigits (128 * pending.getD 0 + b.toNat % 128)) := by
  have hb := b.toNat_lt
  have hdiv : (128 * pending.getD 0 + b.toNat % 128) / 128 = pending.getD 0 := by omega
  have hmod : (128 * pending.getD 0 + b.toNat % 128) % 128 = b.toNat % 128 := by omega
  constructor
  · intro hlast
    have hlt : b.toNat < 128 := UInt8.lt_iff_toNat_lt.mp hlast
    rw [base128, hdiv, hmod, Nat.mod_eq_of_lt hlt, UInt8.ofNat_toNat]
    rfl
  · intro hmore
    have hge : 128 ≤ b.toNat := Nat.not_lt.mp fun hlt => hmore (UInt8.lt_iff_toNat_lt.mpr hlt)
    have hne : 128 * pending.getD 0 + b.toNat % 128 ≠ 0 := by
      cases pending with
      | none =>
        have : b.toNat ≠ 128 := fun heq => h ⟨rfl, UInt8.toNat_inj.mp heq⟩
        simp only [Option.getD_none]
        omega
      | some m =>
        have := hpos m rfl
        simp only [Option.getD_some]
        omega
    refine ⟨hne, ?_⟩
    have hbyte : 128 + b.toNat % 128 = b.toNat := by omega
    rw [leadingDigits_of_ne_zero hne, hdiv, hmod, hbyte, UInt8.ofNat_toNat]
    rfl

theorem pendingDigits_append_of_numbers {pending : Option Nat} {bs : Bytes} {ns : List Nat}
    (hpos : ∀ m ∈ pending, m ≠ 0) (h : numbers pending bs = .ok ns) :
    pendingDigits pending ++ bs = ns.flatMap base128 := by
  induction bs generalizing pending ns with
  | nil =>
    cases pending with
    | none =>
      cases h
      simp [pendingDigits, leadingDigits_zero]
    | some m => cases h
  | cons b bs ih =>
    rw [numbers] at h
    split at h
    · cases h
    · next hpad =>
      obtain ⟨hlast, hmore⟩ := pendingDigits_append hpad hpos
      dsimp only at h
      split at h
      · next hlt =>
        obtain ⟨ns', hns', rfl⟩ := map_eq_ok.mp h
        have hrest := ih (by simp) hns'
        rw [pendingDigits, Option.getD_none, leadingDigits_zero, List.nil_append] at hrest
        rw [List.flatMap_cons, ← hlast hlt, List.append_assoc, List.singleton_append, hrest]
      · next hlt =>
        obtain ⟨hne, hdigits⟩ := hmore hlt
        have hrest := ih (by simpa using hne) h
        rw [← hrest, ← List.singleton_append, ← List.append_assoc, hdigits]
        rfl

theorem numbers_eq_ok_iff {bs : Bytes} {ns : List Nat} :
    numbers none bs = .ok ns ↔ bs = ns.flatMap base128 := by
  constructor
  · intro h
    have := pendingDigits_append_of_numbers (by simp) h
    rwa [pendingDigits, Option.getD_none, leadingDigits_zero, List.nil_append] at this
  · rintro rfl
    exact numbers_flatMap_base128 ns

/-! ## Arcs -/

/-- The first two arcs that share a number: the second is below 40 unless the first is 2. -/
def Sharing (first second : Nat) : Prop := first ≤ 2 ∧ (first < 2 → second < 40)

theorem splitFirst_eq (n : Nat) :
    ∃ first second, splitFirst n = [first, second] ∧ Sharing first second ∧
      40 * first + second = n := by
  unfold splitFirst Sharing
  split
  · exact ⟨0, n, rfl, by omega, by omega⟩
  · split
    · exact ⟨1, n - 40, rfl, by omega, by omega⟩
    · exact ⟨2, n - 80, rfl, by omega, by omega⟩

theorem splitFirst_shared {first second : Nat} (h : Sharing first second) :
    splitFirst (40 * first + second) = [first, second] := by
  obtain ⟨first', second', heq, h', hsum⟩ := splitFirst_eq (40 * first + second)
  have hfirst : first' = first := by
    unfold Sharing at h h'
    omega
  rw [heq, hfirst]
  congr 2
  omega

theorem joinFirst?_natCast {first second : Nat} (rest : List Nat) (h : Sharing first second) :
    joinFirst? ((first :: second :: rest).map Int.ofNat) =
      some (((40 * first + second) :: rest).map Int.ofNat) := by
  obtain ⟨hle, hlt⟩ := h
  have hcheck : ¬(2 < Int.ofNat first ∨ Int.ofNat first < 2 ∧ 40 ≤ Int.ofNat second) := by
    simp only [Int.ofNat_eq_natCast]
    omega
  have hshared : 40 * Int.ofNat first + Int.ofNat second = Int.ofNat (40 * first + second) := by
    simp
  rw [List.map_cons, List.map_cons, joinFirst?, if_neg hcheck, hshared, List.map_cons]

theorem joinFirst?_splitFirst (n : Nat) (rest : List Nat) :
    joinFirst? ((splitFirst n ++ rest).map Int.ofNat) = some ((n :: rest).map Int.ofNat) := by
  obtain ⟨first, second, heq, hshare, rfl⟩ := splitFirst_eq n
  rw [heq, ← joinFirst?_natCast rest hshare]
  rfl

/-- Arcs are read only from the shortest bytes of their numbers. -/
theorem arcs_eq_ok {bs : Bytes} {ns : List Nat} (h : arcs bs = .ok ns) :
    ∃ n rest, ns = splitFirst n ++ rest ∧ bs = (n :: rest).flatMap base128 := by
  unfold arcs at h
  split at h
  · cases h
  · next hlast =>
    obtain ⟨all, hall, hns⟩ := map_eq_ok.mp h
    cases all with
    | nil =>
      rw [numbers_eq_ok_iff.mp hall] at hlast
      simp at hlast
    | cons n rest => exact ⟨n, rest, hns.symm, numbers_eq_ok_iff.mp hall⟩

theorem getLast?_base128 (n : Nat) (bs : Bytes) :
    (bs ++ base128 n).getLast? = some (UInt8.ofNat (n % 128)) := by
  rw [base128, ← List.append_assoc, List.getLast?_concat]

theorem arcs_flatMap_base128 (n : Nat) (rest : List Nat) :
    arcs ((n :: rest).flatMap base128) = .ok (splitFirst n ++ rest) := by
  have hlast : ((n :: rest).flatMap base128).getLast?.all (128 ≤ ·) = false := by
    rcases List.eq_nil_or_concat (n :: rest) with hnil | ⟨init, m, hconcat⟩
    · cases hnil
    · rw [hconcat, List.concat_eq_append, List.flatMap_append, List.flatMap_singleton,
        getLast?_base128]
      simpa using last_lt m
  rw [arcs, hlast, numbers_flatMap_base128]
  rfl

theorem arcs_ne_nil {bs : Bytes} {ns : List Nat} (h : arcs bs = .ok ns) : ns ≠ [] := by
  obtain ⟨n, rest, rfl, -⟩ := arcs_eq_ok h
  obtain ⟨first, second, heq, -⟩ := splitFirst_eq n
  simp [heq]

/-! ## Text -/

theorem parts_eq_splitOn (cs : List Char) : parts cs = cs.splitOn '.' := by
  induction cs with
  | nil => rfl
  | cons c cs ih =>
    rw [parts, List.splitOn_cons_eq_if_modifyHead, ih]
    by_cases h : c = '.'
    · simp [h]
    · cases hsplit : cs.splitOn '.' with
      | nil => exact absurd hsplit (List.splitOn_ne_nil '.' cs)
      | cons part more => simp [h]

/-- Arcs are printed with dots between them unless one of them is too long. -/
theorem text?_eq_some {ns : List Nat} {s : String} :
    text? ns = some s ↔
      (∀ n ∈ ns, n < 10 ^ Text.longestNumeral) ∧ s = ".".intercalate (ns.map Nat.repr) := by
  have hmapM : ∀ ns : List Nat, ∀ ss : List String, ns.mapM Text.decimal? = some ss ↔
      (∀ n ∈ ns, n < 10 ^ Text.longestNumeral) ∧ ss = ns.map Nat.repr := by
    intro ns
    induction ns with
    | nil => simp [eq_comm]
    | cons n ns ih =>
      intro ss
      simp only [List.mapM_cons, Option.bind_eq_bind, Option.bind_eq_some_iff, ih,
        Text.decimal?_eq_some, Option.pure_def, Option.some.injEq, List.forall_mem_cons,
        List.map_cons]
      constructor
      · rintro ⟨t, ⟨hn, rfl⟩, ts, ⟨hns, rfl⟩, rfl⟩
        exact ⟨⟨hn, hns⟩, rfl⟩
      · rintro ⟨⟨hn, hns⟩, rfl⟩
        exact ⟨_, ⟨hn, rfl⟩, _, ⟨hns, rfl⟩, rfl⟩
  unfold text?
  rw [Option.map_eq_some_iff]
  constructor
  · rintro ⟨ss, hss, rfl⟩
    obtain ⟨hns, rfl⟩ := (hmapM ns ss).mp hss
    exact ⟨hns, rfl⟩
  · rintro ⟨hns, rfl⟩
    exact ⟨_, (hmapM ns _).mpr ⟨hns, rfl⟩, rfl⟩

theorem parts_text (ns : List Nat) (h : ns ≠ []) :
    parts (".".intercalate (ns.map Nat.repr)).toList = ns.map (Nat.toDigits 10) := by
  have hdot : ∀ part ∈ ns.map (Nat.toDigits 10), '.' ∉ part := by
    intro part hpart hmem
    obtain ⟨n, -, rfl⟩ := List.mem_map.mp hpart
    exact absurd (Nat.isDigit_of_mem_toDigits (by decide) (by decide) hmem) (by decide)
  have hlist : (".".intercalate (ns.map Nat.repr)).toList =
      ['.'].intercalate (ns.map (Nat.toDigits 10)) := by
    rw [String.toList_intercalate, List.map_map]
    congr 1
    exact List.map_congr_left fun n _ => Nat.toList_repr
  rw [parts_eq_splitOn, hlist, List.splitOn_intercalate '.' hdot (by simpa using h)]

/-- The dotted text of arcs is read back as them. -/
theorem parse_text {ns : List Nat} {s : String} (hne : ns ≠ []) (h : text? ns = some s) :
    parse s = .ok (ns.map Int.ofNat) := by
  obtain ⟨hns, rfl⟩ := text?_eq_some.mp h
  have hmapM : ∀ ns : List Nat, (∀ n ∈ ns, n < 10 ^ Text.longestNumeral) →
      ((ns.map (Nat.toDigits 10)).mapM fun part => Text.integer? (String.ofList part)) =
        some (ns.map Int.ofNat) := by
    intro ns hns
    induction ns with
    | nil => rfl
    | cons n ns ih =>
      rw [List.forall_mem_cons] at hns
      rw [List.map_cons, List.mapM_cons, Text.integer?_toDigits, if_pos hns.1, ih hns.2]
      rfl
  rw [parse, parts_text ns hne, hmapM ns hns]

theorem parse_eq_error {ns : List Nat} (h : ∃ n ∈ ns, 10 ^ Text.longestNumeral ≤ n) :
    parse (".".intercalate (ns.map Nat.repr)) = .error .arc := by
  have hmapM : ∀ ns : List Nat, (∃ n ∈ ns, 10 ^ Text.longestNumeral ≤ n) →
      ((ns.map (Nat.toDigits 10)).mapM fun part => Text.integer? (String.ofList part)) = none := by
    intro ns h
    induction ns with
    | nil => simp at h
    | cons n ns ih =>
      rw [List.map_cons, List.mapM_cons, Text.integer?_toDigits]
      split
      · next hn =>
        rw [List.exists_mem_cons_iff] at h
        rw [ih (h.resolve_left (Nat.not_le.mpr hn))]
        rfl
      · rfl
  have hne : ns ≠ [] := by
    rintro rfl
    simp at h
  rw [parse, parts_text ns hne, hmapM ns h]

/-! ## Bytes and text together -/

theorem decode_eq_ok {bs : Bytes} {s : String} :
    decode bs = .ok s ↔ ∃ ns, arcs bs = .ok ns ∧ text? ns = some s := by
  unfold decode
  cases arcs bs with
  | error fault => simp
  | ok ns => cases htext : text? ns <;> simp [htext]

/-- Arcs that are numbers from zero on are written as their bytes. -/
theorem encode_of_joinFirst? {s : String} {ns : List Int} {ms : List Nat} (hparse : parse s = .ok ns)
    (hjoin : joinFirst? ns = some (ms.map Int.ofNat)) : encode s = .ok (ms.flatMap base128) := by
  rw [encode, hparse, ok_bind, hjoin]
  dsimp only
  rw [mapM_base128?_natCast, List.flatMap_def]

/-- Bytes that have a dotted form are the bytes of that form. -/
theorem encode_of_decode {bs : Bytes} {s : String} (h : decode bs = .ok s) :
    encode s = .ok bs := by
  obtain ⟨ns, harcs, htext⟩ := decode_eq_ok.mp h
  have hparse := parse_text (arcs_ne_nil harcs) htext
  obtain ⟨n, rest, rfl, rfl⟩ := arcs_eq_ok harcs
  exact encode_of_joinFirst? hparse (joinFirst?_splitFirst n rest)

theorem decode_injective {bs bs' : Bytes} {s : String} (h : decode bs = .ok s)
    (h' : decode bs' = .ok s) : bs = bs' := by
  have := encode_of_decode h
  rw [encode_of_decode h'] at this
  cases this
  rfl

/-! ## Canonical forms -/

/-- A dotted identifier in canonical form: two arcs that can share a number, then any others, all in
decimal without leading zeros. -/
def Canonical (s : String) : Prop :=
  ∃ first second rest, Sharing first second ∧
    s = ".".intercalate ((first :: second :: rest).map Nat.repr)

/-- No arc of the text has more digits than are read as a number. -/
def ShortArcs (s : String) : Prop :=
  ∀ part ∈ parts s.toList, part.length ≤ Text.longestNumeral

instance (s : String) : Decidable (ShortArcs s) :=
  inferInstanceAs (Decidable (∀ part ∈ parts s.toList, part.length ≤ Text.longestNumeral))

theorem shortArcs_iff {ns : List Nat} (hne : ns ≠ []) :
    ShortArcs (".".intercalate (ns.map Nat.repr)) ↔ ∀ n ∈ ns, n < 10 ^ Text.longestNumeral := by
  rw [ShortArcs, parts_text ns hne, List.forall_mem_map]
  exact forall₂_congr fun n _ => Nat.length_toDigits_le_iff (by decide) (by decide)

/-- A canonical form is the dotted form of the bytes that it is written as. -/
theorem decode_of_canonical {s : String} (h : Canonical s) (hshort : ShortArcs s) :
    ∃ bs, encode s = .ok bs ∧ decode bs = .ok s := by
  obtain ⟨first, second, rest, hshare, rfl⟩ := h
  have hns := (shortArcs_iff (List.cons_ne_nil _ _)).mp hshort
  have harcs := arcs_flatMap_base128 (40 * first + second) rest
  rw [splitFirst_shared hshare] at harcs
  have hdecode := decode_eq_ok.mpr ⟨_, harcs, text?_eq_some.mpr ⟨hns, rfl⟩⟩
  exact ⟨_, encode_of_decode hdecode, hdecode⟩

theorem encode_of_longArc {s : String} (h : Canonical s) (hlong : ¬ShortArcs s) :
    encode s = .error .arc := by
  obtain ⟨first, second, rest, -, rfl⟩ := h
  rw [shortArcs_iff (List.cons_ne_nil _ _)] at hlong
  push Not at hlong
  rw [encode, parse_eq_error hlong]
  rfl

end WebKeys.ObjectId
