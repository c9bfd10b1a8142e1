import WebKeys.Proofs.JsonReading
import WebKeys.Proofs.Masking

/-!
# One record, one line

A record becomes one line of printable characters, whatever is in its message, its fields and the
text of its exception. The line is read as one object, and what is read under the name of a field is
what masking has left of the field.

* `printable_toText`: no line of JSON has a character outside of printable ASCII.
* `Log.membersFit_mask`: masking makes no number too large.
* `Log.Record.line_read_back`: the line of a record, read back.
-/

namespace WebKeys

namespace Json

/-! ## Printable characters -/

/-- From the blank to the tilde. -/
def Printable (c : Char) : Prop := 0x20 ≤ c.toNat ∧ c.toNat ≤ 0x7E

theorem printable_of_isWordChar {c : Char} (h : isWordChar c = true) : Printable c := by
  have halpha (h : c.isAlpha = true) : Printable c := by
    simp only [Char.isAlpha, Char.isUpper, Char.isLower, Bool.or_eq_true, Bool.and_eq_true,
      decide_eq_true_eq, UInt32.le_iff_toNat_le, ge_iff_le] at h
    change (0x41 ≤ c.toNat ∧ c.toNat ≤ 0x5A) ∨ (0x61 ≤ c.toNat ∧ c.toNat ≤ 0x7A) at h
    unfold Printable
    omega
  simp only [isWordChar, isFractionChar, isIntegerChar, Bool.or_eq_true, beq_iff_eq] at h
  rcases h with ((((hdigit | rfl) | rfl) | rfl) | rfl) | h
  · have := Text.toNat_of_isDigit hdigit
    unfold Printable
    omega
  · exact ⟨by decide, by decide⟩
  · exact ⟨by decide, by decide⟩
  · exact ⟨by decide, by decide⟩
  · exact ⟨by decide, by decide⟩
  · exact halpha h

theorem printable_digit {n : ℕ} (h : n < 16) : Printable (Hex.digit n) := by
  revert n
  unfold Printable
  decide

theorem printable_fixed (w n : ℕ) : ∀ c ∈ Hex.fixed w n, Printable c := by
  induction w generalizing n with
  | zero => simp [Hex.fixed]
  | succ w ih =>
    rw [Hex.fixed, List.forall_mem_append, List.forall_mem_singleton]
    exact ⟨ih _, printable_digit (Nat.mod_lt n (by decide))⟩

theorem printable_unitEscape (n : ℕ) : ∀ c ∈ unitEscape n, Printable c := by
  rw [unitEscape, List.forall_mem_cons, List.forall_mem_cons]
  exact ⟨by unfold Printable; decide, by unfold Printable; decide, printable_fixed 4 n⟩

/-- An escaped character is written with printable characters. -/
theorem printable_asciiEscape (c : Char) : ∀ d ∈ asciiEscape c, Printable d := by
  unfold asciiEscape
  cases hshort : shortEscape? c with
  | some cs =>
    rw [Option.getD_some]
    unfold shortEscape? at hshort
    repeat' split at hshort
    all_goals cases hshort
    all_goals rw [List.forall_mem_cons, List.forall_mem_singleton]
    all_goals exact ⟨⟨by decide, by decide⟩, by decide, by decide⟩
  | none =>
    rw [Option.getD_none]
    split
    · next h =>
      rw [List.forall_mem_singleton]
      exact ⟨h.1, by omega⟩
    · unfold unitEscapes
      dsimp only
      split
      · exact printable_unitEscape _
      · rw [List.forall_mem_append]
        exact ⟨printable_unitEscape _, printable_unitEscape _⟩

theorem printable_string (s : String) : ∀ c ∈ stringWith asciiEscape s, Printable c := by
  rw [stringWith, List.forall_mem_append, List.forall_mem_cons, List.forall_mem_singleton]
  refine ⟨⟨⟨by decide, by decide⟩, fun c hc => ?_⟩, ⟨by decide, by decide⟩⟩
  obtain ⟨d, -, hd⟩ := List.mem_flatMap.mp hc
  exact printable_asciiEscape d c hd

theorem printable_joined {xs : List (List Char)} (h : ∀ x ∈ xs, ∀ c ∈ x, Printable c) :
    ∀ c ∈ joined [',', ' '] xs, Printable c := by
  induction xs with
  | nil => simp [joined]
  | cons x xs ih =>
    rw [List.forall_mem_cons] at h
    cases xs with
    | nil => exact h.1
    | cons y ys =>
      rw [joined, List.forall_mem_append, List.forall_mem_append, List.forall_mem_cons,
        List.forall_mem_singleton]
      · exact ⟨⟨h.1, ⟨by decide, by decide⟩, by decide, by decide⟩, ih h.2⟩
      · exact List.cons_ne_nil y ys

theorem printable_bracketed {opening closing : Char} {cs : List Char} (hopening : Printable opening)
    (hclosing : Printable closing) (h : ∀ c ∈ cs, Printable c) :
    ∀ c ∈ opening :: cs ++ [closing], Printable c := by
  rw [List.forall_mem_append, List.forall_mem_cons, List.forall_mem_singleton]
  exact ⟨⟨hopening, h⟩, hclosing⟩

mutual
theorem printable_spaced : ∀ (v : Json), ∀ c ∈ v.spaced, Printable c
  | .null, c, hc => printable_of_isWordChar ((isWordChar_of_mem_spaced rfl).2 c hc)
  | .bool b, c, hc => printable_of_isWordChar ((isWordChar_of_mem_spaced rfl).2 c hc)
  | .int n, c, hc => printable_of_isWordChar ((isWordChar_of_mem_spaced rfl).2 c hc)
  | .float x, c, hc => printable_of_isWordChar ((isWordChar_of_mem_spaced rfl).2 c hc)
  | .string s, c, hc => printable_string s c hc
  | .array vs, c, hc => printable_bracketed ⟨by decide, by decide⟩ ⟨by decide, by decide⟩
    (printable_joined (printable_spacedItems vs)) c hc
  | .object ms, c, hc => printable_bracketed ⟨by decide, by decide⟩ ⟨by decide, by decide⟩
    (printable_joined (printable_spacedMembers ms)) c hc

theorem printable_spacedItems : ∀ (vs : List Json), ∀ x ∈ spacedItems vs, ∀ c ∈ x, Printable c
  | [] => by simp [spacedItems]
  | v :: vs => by
    rw [spacedItems, List.forall_mem_cons]
    exact ⟨printable_spaced v, printable_spacedItems vs⟩

theorem printable_spacedMembers :
    ∀ (ms : List (String × Json)), ∀ x ∈ spacedMembers ms, ∀ c ∈ x, Printable c
  | [] => by simp [spacedMembers]
  | (name, v) :: ms => by
    rw [spacedMembers, List.forall_mem_cons, List.forall_mem_append, List.forall_mem_cons,
      List.forall_mem_cons]
    exact ⟨⟨printable_string name, ⟨by decide, by decide⟩, ⟨by decide, by decide⟩,
      printable_spaced v⟩, printable_spacedMembers ms⟩
end

theorem printable_toText (v : Json) : ∀ c ∈ v.toText.toList, Printable c := by
  rw [toText, String.toList_ofList]
  exact printable_spaced v

/-! ## Numbers that fit -/

theorem membersFit_put {ms : Members} (h : membersFit ms = true) (name : String) {v : Json}
    (hv : v.fits = true) : membersFit (Members.put ms name v) = true := by
  induction ms with
  | nil => rw [Members.put, membersFit, hv, membersFit, Bool.and_self]
  | cons m ms ih =>
    obtain ⟨n, w⟩ := m
    rw [membersFit, Bool.and_eq_true] at h
    rw [Members.put]
    split
    · rw [membersFit, hv, h.2, Bool.and_self]
    · rw [membersFit, h.1, ih h.2, Bool.and_self]

theorem membersFit_update {ms added : Members} (h : membersFit ms = true)
    (hadded : membersFit added = true) : membersFit (Members.update ms added) = true := by
  induction added generalizing ms with
  | nil => exact h
  | cons m added ih =>
    obtain ⟨n, v⟩ := m
    rw [membersFit, Bool.and_eq_true] at hadded
    exact ih (membersFit_put h n hadded.1) hadded.2

end Json

namespace Log

open Json

mutual
/-- Masking keeps numbers within what the reader takes. -/
theorem fits_maskValue : ∀ v : Json, v.fits = true → (maskValue v).fits = true
  | .object ms, h => membersFit_mask ms h
  | .null, h | .bool _, h | .int _, h | .float _, h | .string _, h | .array _, h => h

theorem membersFit_mask : ∀ ms : List (String × Json), membersFit ms = true →
    membersFit (mask ms) = true
  | [], _ => rfl
  | (name, v) :: ms, h => by
    rw [membersFit, Bool.and_eq_true] at h
    have hv : (if isSensitive name then redacted else maskValue v).fits = true := by
      split
      · rfl
      · exact fits_maskValue v h.1
    rw [mask, membersFit, hv, membersFit_mask ms h.2, Bool.and_self]
end

namespace Record

theorem membersFit_ownMembers (now : Moment) (r : Record) :
    membersFit (r.ownMembers now) = true := by
  unfold ownMembers
  cases r.identifier? <;> rfl

theorem membersFit_lastMembers (r : Record) : membersFit r.lastMembers = true := by
  unfold lastMembers
  cases r.exception <;> split <;> rfl

theorem membersFit_members {r : Record} (h : membersFit r.fields = true) (now : Moment) :
    membersFit (r.members now) = true := by
  have hmembers : r.members now = _ := r.members_withFields now r.fields
  rw [hmembers]
  exact membersFit_update (membersFit_update (membersFit_ownMembers now r)
    (membersFit_mask r.fields h)) (membersFit_lastMembers r)

/-! ## Lines -/

theorem exists_readAny?_toJsonLine {r : Record} (hfits : membersFit r.fields = true)
    (now : Moment) : ∃ ms, readAny? (r.toJsonLine now).toList = some (.object ms) ∧
      SameMembers ms (r.members now) := by
  have hmembers : (Json.object (r.members now)).fits = true := membersFit_members hfits now
  obtain ⟨v, hread, hsame⟩ := readAny?_toText hmembers
  cases hsame with
  | object hsame => exact ⟨_, hread, hsame⟩

/-- The names under which a record has members of its own. -/
def ownNames : List String :=
  ["timestamp", "level", "logger", "message", "correlation_id", "exception", "source"]

theorem names_ownMembers (now : Moment) (r : Record) {n : String} (h : n ∉ ownNames) :
    n ∉ (r.ownMembers now).map (·.1) := by
  unfold ownMembers ownNames at *
  cases r.identifier? <;> simp_all

theorem names_lastMembers (r : Record) {n : String} (h : n ∉ ownNames) :
    n ∉ r.lastMembers.map (·.1) := by
  unfold lastMembers ownNames at *
  cases r.exception <;> split <;> simp_all

/-- Under any other name a line has what masking leaves of the field. -/
theorem get?_members_of_not_mem (now : Moment) (r : Record) {n : String} (h : n ∉ ownNames) :
    Members.get? (r.members now) n = Members.get? (mask r.fields) n := by
  have hget : Members.get? (r.members now) n = _ := r.get?_members now r.fields n
  rw [hget, Members.get?_of_not_mem (names_lastMembers r h),
    Members.get?_of_not_mem (names_ownMembers now r h), Option.none_or, Option.or_none]

/-- The line of a record has printable characters alone. If its fractions fit into 64 bits, the line
is read as one object, and what is read under a name that is not one of the record's own is what
masking leaves of the field. -/
theorem line_read_back (now : Moment) (r : Record) :
    (∀ c ∈ (r.toJsonLine now).toList, 0x20 ≤ c.toNat ∧ c.toNat ≤ 0x7E) ∧
    (membersFit r.fields = true → ∃ ms, readAny? (r.toJsonLine now).toList = some (.object ms) ∧
      SameMembers ms (r.members now) ∧ ∀ n ∉ ownNames,
        Option.Rel Same (Members.get? ms n) (Members.get? (mask r.fields) n)) := by
  refine ⟨printable_toText _, fun hfits => ?_⟩
  obtain ⟨ms, hread, hsame⟩ := exists_readAny?_toJsonLine hfits now
  refine ⟨ms, hread, hsame, fun n hn => ?_⟩
  rw [← get?_members_of_not_mem now r hn]
  exact hsame.get?_rel n

/-- Lines in the message and in the exception, any characters in names and text, and a member that
is masked. -/
theorem record_of_many_lines_read_back :
    let fields : Members := [("note", .object [("d", .int 2), ("\"\\", .string "\x7f\n😀")]),
      ("ratio", .float (.finite false 15 (-1)))]
    let line := Record.toJsonLine ⟨"2026-01-02", "12:00:00.000", .undefined⟩
      ⟨Level.error, "kmsjwk.test", "first\nsecond", fields, some "é", some "ValueError: a\nb",
        ⟨"/x/file.py", 7, "fn"⟩⟩
    membersFit fields = true ∧ '\n' ∉ line.toList ∧ ∃ ms, readAny? line.toList = some (.object ms) ∧
      Option.Rel Same (Members.get? ms "note")
        (some (.object [("d", redacted), ("\"\\", .string "\x7f\n😀")])) := by
  intro fields line
  have hfits : membersFit fields = true := by decide +kernel
  obtain ⟨hprintable, hread⟩ := line_read_back ⟨"2026-01-02", "12:00:00.000", .undefined⟩
    ⟨Level.error, "kmsjwk.test", "first\nsecond", fields, some "é", some "ValueError: a\nb",
      ⟨"/x/file.py", 7, "fn"⟩⟩
  obtain ⟨ms, hms, -, hfields⟩ := hread hfits
  have hbreak : '\n' ∉ line.toList := fun h => absurd (hprintable _ h).1 (by decide)
  have hmask : Members.get? (mask fields) "note" =
      some (.object [("d", redacted), ("\"\\", .string "\x7f\n😀")]) := by
    have hd : isSensitive "d" = true := by decide +kernel
    have htext : isSensitive "\"\\" = false := by decide +kernel
    have hnote : isSensitive "note" = false := by decide +kernel
    simp [fields, mask, maskValue, Members.get?, hd, htext, hnote]
  exact ⟨hfits, hbreak, ms, hms, hmask ▸ hfields "note" (by decide)⟩

end Record

end Log

end WebKeys
