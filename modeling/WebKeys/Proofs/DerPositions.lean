import WebKeys.Proofs.DerElement

/-!
# DER elements by position

A reader that goes through a byte string by positions looks at single bytes and at ranges of bytes.
Here each such look outside of the bytes ends the reading in a way of its own, so that a reader
which never ends so is one that stays inside.

* `readAt` reads the element at a position and says where it ends. It comes to what `read` makes of
  the bytes from there on (`readAt_eq`), and so it stays inside.
* `elements_read_where_written`: it finds an element between two positions exactly where the element
  as it is written stands between them.
-/

namespace WebKeys.Der

open Outcome

/-! ## Positions -/

/-- Why a reading by positions ends early. -/
inductive Halt
  | fault (f : DerFault)
  /-- A byte was asked for at a position where there is none. -/
  | outside
  deriving DecidableEq

def byteAt (data : Bytes) (i : Nat) : Except Halt UInt8 :=
  match data[i]? with
  | some b => .ok b
  | none => .error .outside

/-- The bytes from a position up to another. -/
def bytesBetween (data : Bytes) (start stop : Nat) : Except Halt Bytes :=
  if start ≤ stop ∧ stop ≤ data.length then .ok (data.extract start stop) else .error .outside

/-- The length that `count` bytes from a position spell, and where they end. -/
def longLengthAt (data : Bytes) (count start : Nat) : Except Halt (Nat × Nat) := do
  if 4 < count ∨ data.length < start + count then throw (.fault .truncated)
  let octets ← bytesBetween data start (start + count)
  if (← byteAt octets 0) = 0 then throw (.fault .leadingZeroLength)
  if Bytes.toNat octets < 128 then throw (.fault .longLength)
  return (Bytes.toNat octets, start + count)

/-- The length that starts at a position, and where it ends. -/
def lengthAt (data : Bytes) (pos : Nat) : Except Halt (Nat × Nat) := do
  let first ← byteAt data pos
  if first = 128 then throw (.fault .indefiniteLength)
  if 128 ≤ first then longLengthAt data (first.toNat - 128) (pos + 1)
  else return (first.toNat, pos + 1)

/-- The element that starts at a position, and where it ends. -/
def readAt (data : Bytes) (pos : Nat) : Except Halt (Element × Nat) := do
  if data.length < pos + 2 then throw (.fault .truncated)
  let tag ← byteAt data pos
  if tag.toNat % 32 = 31 then throw (.fault .highTag)
  let (length, start) ← lengthAt data (pos + 1)
  if data.length < start + length then throw (.fault .truncated)
  return (⟨tag, ← bytesBetween data start (start + length)⟩, start + length)

/-- What is read from the bytes at the end of `data`, with the position where the rest begins in
place of the rest. -/
def placed {α : Type} (data : Bytes) (r : Except DerFault (α × Bytes)) : Except Halt (α × Nat) :=
  (r.map fun found => (found.1, data.length - found.2.length)).mapError .fault

@[simp] theorem placed_ok {α : Type} (data : Bytes) (a : α) (rest : Bytes) :
    placed data (.ok (a, rest)) = .ok (a, data.length - rest.length) := rfl

@[simp] theorem placed_error {α : Type} (data : Bytes) (f : DerFault) :
    placed data (.error f : Except DerFault (α × Bytes)) = .error (.fault f) := rfl

/-! ## Reading by positions is reading what is left -/

variable {data : Bytes} {pos : Nat}

theorem byteAt_of_drop {b : UInt8} {rest : Bytes} (h : data.drop pos = b :: rest) :
    byteAt data pos = .ok b := by
  have hget : data[pos]? = some b := by
    rw [← List.head?_drop, h, List.head?_cons]
  rw [byteAt, hget]

theorem bytesBetween_of_le {n : Nat} (h : pos + n ≤ data.length) :
    bytesBetween data pos (pos + n) = .ok ((data.drop pos).take n) := by
  rw [bytesBetween, if_pos ⟨Nat.le_add_right pos n, h⟩, List.extract_eq_take_drop,
    Nat.add_sub_cancel_left]

theorem drop_succ_of_drop {b : UInt8} {rest : Bytes} (h : data.drop pos = b :: rest) :
    data.drop (pos + 1) = rest := by
  rw [← List.tail_drop, h, List.tail_cons]

theorem length_of_drop {b : UInt8} {rest : Bytes} (h : data.drop pos = b :: rest) :
    data.length = pos + 1 + rest.length := by
  have hlen := congrArg List.length h
  rw [List.length_drop, List.length_cons] at hlen
  omega

/-- At least one byte must be asked for: the first of none would be outside. -/
theorem longLengthAt_eq {count : Nat} (hcount : count ≠ 0) (hpos : pos ≤ data.length) :
    longLengthAt data count pos = placed data (longLength count (data.drop pos)) := by
  have hlen : (data.drop pos).length = data.length - pos := List.length_drop
  rw [longLengthAt, longLength]
  by_cases hfits : 4 < count ∨ data.length < pos + count
  · rw [if_pos hfits, if_pos (by omega)]
    rfl
  · have hle : pos + count ≤ data.length := by omega
    rw [if_neg hfits, if_neg (by omega), bytesBetween_of_le hle, ok_bind]
    cases hoctets : (data.drop pos).take count with
    | nil =>
      have hnone := congrArg List.length hoctets
      rw [List.length_take, List.length_nil] at hnone
      omega
    | cons b octets =>
      have hhead : (data.drop pos).head? = some b := by
        have htake := congrArg List.head? hoctets
        rwa [List.head?_take, if_neg hcount] at htake
      have hbyte : byteAt (b :: octets) 0 = .ok b := rfl
      rw [hbyte, ok_bind, hhead]
      by_cases hzero : b = 0
      · rw [if_pos hzero, if_pos (congrArg some hzero)]
        rfl
      · rw [if_neg hzero, if_neg (fun h => hzero (Option.some.inj h))]
        by_cases hlow : Bytes.toNat (b :: octets) < 128
        · simp [hlow]
        · have hstop : data.length - ((data.drop pos).drop count).length = pos + count := by
            rw [List.length_drop, hlen]
            omega
          rw [if_neg hlow, if_neg hlow, placed_ok, hstop]
          rfl

theorem lengthAt_eq {first : UInt8} {rest : Bytes} (h : data.drop pos = first :: rest) :
    lengthAt data pos = placed data (lengthFrom first rest) := by
  have hlen := length_of_drop h
  rw [lengthAt, byteAt_of_drop h, ok_bind, lengthFrom]
  by_cases hshort : first < 128
  · have hne : first ≠ 128 := by
      rintro rfl
      exact absurd hshort (by decide)
    have hstop : data.length - rest.length = pos + 1 := by omega
    rw [if_neg hne, if_neg (by simpa using hshort), if_pos hshort, placed_ok, hstop]
    rfl
  · rw [if_neg hshort]
    by_cases hindefinite : first = 128
    · rw [if_pos hindefinite, if_pos hindefinite]
      rfl
    · have hge : 128 ≤ first := by simpa using hshort
      have hcount : first.toNat - 128 ≠ 0 := by
        intro hzero
        apply hindefinite
        apply UInt8.toNat_inj.mp
        have := UInt8.le_iff_toNat_le.mp hge
        simp at this ⊢
        omega
      rw [if_neg hindefinite, if_neg hindefinite, if_pos hge, longLengthAt_eq hcount (by omega),
        drop_succ_of_drop h]

/-- Reading at a position is reading the bytes from there on, with positions counted from the start.
-/
theorem readAt_eq (data : Bytes) (pos : Nat) :
    readAt data pos = placed data (read (data.drop pos)) := by
  rw [readAt]
  cases hdrop : data.drop pos with
  | nil =>
    have hlen : data.length ≤ pos := List.drop_eq_nil_iff.mp hdrop
    rw [if_pos (by omega)]
    rfl
  | cons tag bytes =>
    have hlen := length_of_drop hdrop
    cases bytes with
    | nil =>
      rw [if_pos (by simp at hlen; omega)]
      rfl
    | cons first rest =>
      rw [List.length_cons] at hlen
      rw [if_neg (by omega), byteAt_of_drop hdrop, ok_bind, read]
      by_cases htag : tag.toNat % 32 = 31
      · rw [if_pos htag, if_pos htag]
        rfl
      · rw [if_neg htag, if_neg htag, lengthAt_eq (drop_succ_of_drop hdrop)]
        cases hlength : lengthFrom first rest with
        | error f => rfl
        | ok found =>
          obtain ⟨n, tail⟩ := found
          have hbytes := (lengthFrom_eq_ok hlength).2
          have hsuffix : tail <:+ data := by
            apply List.IsSuffix.trans _ (List.drop_suffix pos data)
            rw [hdrop, hbytes]
            exact ⟨tag :: lengthOctets n, rfl⟩
          have hle := hsuffix.length_le
          have htail : data.drop (data.length - tail.length) = tail :=
            (List.suffix_iff_eq_drop.mp hsuffix).symm
          rw [placed_ok, ok_bind, ok_bind]
          dsimp only
          by_cases hfits : tail.length < n
          · rw [if_pos hfits, if_pos (by omega)]
            rfl
          · have hstop : data.length - (tail.drop n).length = data.length - tail.length + n := by
              rw [List.length_drop]
              omega
            rw [if_neg hfits, if_neg (by omega), bytesBetween_of_le (by omega), htail, ok_bind]
            simp only [pure_eq_ok, placed_ok, hstop]

/-! ## Elements where they are written -/

theorem readAt_ne_outside (data : Bytes) (pos : Nat) : readAt data pos ≠ .error .outside := by
  rw [readAt_eq]
  cases read (data.drop pos) with
  | ok found =>
    obtain ⟨e, rest⟩ := found
    simp
  | error f => simp

theorem readAt_eq_ok {e : Element} {stop : Nat} : readAt data pos = .ok (e, stop) ↔
    ∃ rest, read (data.drop pos) = .ok (e, rest) ∧ data.length - rest.length = stop := by
  rw [readAt_eq]
  cases read (data.drop pos) with
  | ok found =>
    obtain ⟨e', rest⟩ := found
    simp
  | error f => simp

/-- The element stands in the data between two positions as it is written. Its tag takes one byte,
and its length at most four. A range that goes on past the data would hold the same bytes as one
that ends with the data, so its end is no position of the element. -/
structure Stands (data : Bytes) (start stop : Nat) (e : Element) : Prop where
  stop_le : stop ≤ data.length
  written : data.extract start stop = encode e.tag e.value
  tag : e.tag &&& 0x1F ≠ 0x1F
  length : e.value.length < 2 ^ 32

theorem readable_iff {tag : UInt8} {value : Bytes} :
    Readable tag value ↔ tag &&& 0x1F ≠ 0x1F ∧ value.length < 2 ^ 32 := by
  have htag : tag &&& 0x1F = 0x1F ↔ tag.toNat % 32 = 31 := by
    rw [← UInt8.toNat_inj, UInt8.toNat_and]
    exact Eq.congr_left (Nat.and_two_pow_sub_one_eq_mod tag.toNat 5)
  have hbound : lengthBound = 2 ^ 32 := by norm_num [lengthBound]
  rw [Readable, hbound, Ne, Ne, htag]

theorem length_encode_pos (tag : UInt8) (value : Bytes) : 0 < (encode tag value).length :=
  Nat.succ_pos _

theorem stands_of_read {e : Element} {rest : Bytes} (h : read (data.drop pos) = .ok (e, rest)) :
    Stands data pos (data.length - rest.length) e := by
  obtain ⟨hreadable, hbytes⟩ := eq_encode_of_read h
  obtain ⟨htag, hlength⟩ := readable_iff.mp hreadable
  have hpos := length_encode_pos e.tag e.value
  have hlen := congrArg List.length hbytes
  rw [List.length_drop, List.length_append] at hlen
  have hwidth : data.length - rest.length - pos = (encode e.tag e.value).length := by omega
  refine ⟨by omega, ?_, htag, hlength⟩
  rw [List.extract_eq_take_drop, hwidth, hbytes, List.take_left]

/-- An element that stands at a position is the one read there. -/
theorem Stands.read {e : Element} {stop : Nat} (h : Stands data pos stop e) :
    Der.read (data.drop pos) = .ok (e, data.drop stop) := by
  have hpos := length_encode_pos e.tag e.value
  have hbytes := h.written
  rw [List.extract_eq_take_drop] at hbytes
  have hlen := congrArg List.length hbytes
  rw [List.length_take, List.length_drop] at hlen
  have hafter : (data.drop pos).drop (stop - pos) = data.drop stop := by
    rw [List.drop_drop]
    congr 1
    omega
  rw [← List.take_append_drop (stop - pos) (data.drop pos), hbytes, hafter]
  exact read_encode _ (readable_iff.mpr ⟨h.tag, h.length⟩)

theorem readAt_eq_ok_iff {e : Element} {stop : Nat} :
    readAt data pos = .ok (e, stop) ↔ Stands data pos stop e := by
  rw [readAt_eq_ok]
  constructor
  · rintro ⟨rest, hread, rfl⟩
    exact stands_of_read hread
  · intro h
    refine ⟨data.drop stop, h.read, ?_⟩
    have hstop := h.stop_le
    rw [List.length_drop]
    omega

theorem stands_append (before after : Bytes) {e : Element} (htag : e.tag &&& 0x1F ≠ 0x1F)
    (hlength : e.value.length < 2 ^ 32) :
    Stands (before ++ encode e.tag e.value ++ after) before.length
      (before.length + (encode e.tag e.value).length) e := by
  refine ⟨?_, ?_, htag, hlength⟩
  · simp
  · rw [List.extract_eq_take_drop, List.append_assoc, List.drop_left, Nat.add_sub_cancel_left,
      List.take_left]

/-- Reading finds an element exactly where it stands as it is written, and finds it between any
bytes before and after. Everything else is refused as an encoding, and no byte outside of the data
is looked at. -/
theorem elements_read_where_written :
    (∀ data pos, readAt data pos = placed data (read (data.drop pos)) ∧
      readAt data pos ≠ .error .outside) ∧
    (∀ data pos e stop, readAt data pos = .ok (e, stop) ↔ Stands data pos stop e) ∧
    (∀ data pos, (∃ f, readAt data pos = .error (.fault f) ∧
      (Reason.der f).kind = .invalidEncoding) ↔ ¬∃ e stop, Stands data pos stop e) ∧
    ∀ before tag value after, tag &&& 0x1F ≠ 0x1F → value.length < 2 ^ 32 →
      readAt (before ++ encode tag value ++ after) before.length =
        .ok (⟨tag, value⟩, before.length + (encode tag value).length) := by
  refine ⟨fun data pos => ⟨readAt_eq data pos, readAt_ne_outside data pos⟩,
    fun data pos e stop => readAt_eq_ok_iff, ?_, ?_⟩
  · intro data pos
    simp only [← readAt_eq_ok_iff]
    have hinside := readAt_ne_outside data pos
    cases hread : readAt data pos with
    | ok found =>
      obtain ⟨e, stop⟩ := found
      simp
    | error halt =>
      cases halt with
      | fault f => simp [Reason.kind]
      | outside => exact absurd hread hinside
  · intro before tag value after htag hlength
    apply readAt_eq_ok_iff.mpr
    exact stands_append before after (e := ⟨tag, value⟩) htag hlength

/-- A value of 128 bytes is the first that has its length in two. -/
theorem long_element_between_bytes :
    (4 : UInt8) &&& 0x1F ≠ 0x1F ∧ (List.replicate 128 (7 : UInt8)).length < 2 ^ 32 ∧
      readAt ([5, 0] ++ encode 4 (List.replicate 128 7) ++ [6]) 2 =
        .ok (⟨4, List.replicate 128 7⟩, 133) := by
  have htag : (4 : UInt8) &&& 0x1F ≠ 0x1F := by decide
  have hlength : (List.replicate 128 (7 : UInt8)).length < 2 ^ 32 := by simp
  have hwidth : (encode 4 (List.replicate 128 7)).length = 131 := by decide +kernel
  have hread := elements_read_where_written.2.2.2 [5, 0] 4 _ [6] htag hlength
  rw [hwidth] at hread
  exact ⟨htag, hlength, hread⟩

end WebKeys.Der
