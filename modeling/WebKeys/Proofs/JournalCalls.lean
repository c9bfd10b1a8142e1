import WebKeys.Proofs.Scripts

/-!
# Calls of the journal

A call that is refused, or whose arguments do not fit its message, leaves nothing in the journal;
any other leaves the entries that the journal makes of its event (`Journal.snd_call`). Blocks of
calls leave those of each call, under the identifier of the innermost block around it
(`Logging.adds`).
-/

namespace WebKeys.Log

namespace Journal

/-! ## One call -/

/-- The event of a call, unless the call is refused or its arguments do not fit. -/
def Call.event? (c : Call) : Option Event :=
  if c.hasField reserved || c.faultInWriting?.isSome then none
  else match Template.fill c.message c.arguments with
    | .error _ => none
    | .ok message => some ⟨c.logger, c.method.level, message, c.shownFields, false⟩

/-- What comes along with it. -/
def Call.circumstances (id : Option String) (source : Source) (c : Call) : Circumstances :=
  { correlation := id
    exception := if c.wantsException then some noException else none
    source := source }

/-- The entries that a journal makes of a call. -/
def Call.entries (setup? : Option Setup) (id : Option String) (source : Source) (c : Call) :
    List Entry :=
  entriesOf setup? (c.circumstances id source) c.event?.toList

theorem Call.entries_of_none {c : Call} (h : c.event? = none) (setup? : Option Setup)
    (id : Option String) (source : Source) : c.entries setup? id source = [] := by
  rw [entries, h, Option.toList_none, entriesOf_nil]

/-- A call that becomes an event has been accepted, and the event carries its filled message and the
fields it shows. -/
theorem Call.event?_eq_some {c : Call} {e : Event} (h : c.event? = some e) :
    c.faultInWriting? = none ∧ ∃ message, Template.fill c.message c.arguments = .ok message ∧
      e = ⟨c.logger, c.method.level, message, c.shownFields, false⟩ := by
  unfold event? at h
  split at h
  · cases h
  next haccepted =>
  rw [Bool.or_eq_true, not_or, Option.not_isSome_iff_eq_none] at haccepted
  split at h
  · cases h
  · next message hfill =>
    cases h
    exact ⟨haccepted.2, message, hfill, rfl⟩

theorem Call.entries_of_not_keeps {j : Journal} {c : Call} (h : j.keeps c.method.level = false)
    (id : Option String) (source : Source) : c.entries j.setup? id source = [] := by
  rw [keeps, j.logger_eq] at h
  cases hevent : c.event? with
  | none => exact entries_of_none hevent _ id source
  | some e =>
    cases hsetup : j.setup? with
    | none => rfl
    | some v =>
      obtain ⟨-, message, -, rfl⟩ := event?_eq_some hevent
      rw [hsetup] at h
      have hlevel : decide (v.threshold ≤ c.method.level) = false := h
      rw [entries, hevent, Option.toList_some, entriesOf, List.filter_singleton, hlevel]
      rfl

theorem snd_call (id : Option String) (source : Source) (j : Journal) (c : Call) :
    (j.call { correlation := id, source := source } c).2 =
      { j with entries := j.entries ++ c.entries j.setup? id source } := by
  have hnothing (h : c.entries j.setup? id source = []) :
      j = { j with entries := j.entries ++ c.entries j.setup? id source } := by
    rw [h, List.append_nil]
  unfold Journal.call
  split
  · next hfield =>
    refine hnothing (Call.entries_of_none ?_ _ id source)
    rw [Call.event?, hfield, Bool.true_or, if_pos rfl]
  next hfield =>
  split
  · split
    · next fault hrefused =>
      refine hnothing (Call.entries_of_none ?_ _ id source)
      rw [Call.event?, hrefused, Option.isSome_some, Bool.or_true, if_pos rfl]
    next hrefused =>
    have haccepted : ¬(c.hasField Call.reserved || c.faultInWriting?.isSome) = true := by
      rw [Bool.or_eq_true, not_or, Option.not_isSome_iff_eq_none]
      exact ⟨hfield, hrefused⟩
    split
    · next e hfill =>
      refine hnothing (Call.entries_of_none ?_ _ id source)
      rw [Call.event?, if_neg haccepted, hfill]
    · next message hfill =>
      rw [Call.entries, Call.event?, if_neg haccepted, hfill]
      dsimp only
      rw [Option.toList_some, ← note_eq, Call.circumstances]
      split <;> rfl
  · next hkeeps =>
    exact hnothing (Call.entries_of_not_keeps (Bool.eq_false_iff.mpr hkeeps) id source)

end Journal

/-! ## Calls in blocks -/

open Journal (Call)
open Session (Adds)

/-- Calls of the journal and blocks of them, each of which decides by its end how to go on. -/
inductive Logging : Type
  | done
  | raise (e : Failure)
  | call (source : Source) (c : Call) (rest : Result Unit → Logging)
  /-- With an identifier in force, until the body has ended. -/
  | block (id : Option String) (body : Logging) (rest : Result Unit → Logging)

/-- A call with the identifier of the innermost block around it. -/
structure Called where
  id : Option String
  source : Source
  call : Call

def Called.entries (setup? : Option Setup) (x : Called) : List Entry :=
  x.call.entries setup? x.id x.source

theorem adds_call (source : Source) (c : Call) (s : Session) : Adds s (s.call source c).2
    ((Called.mk s.correlation source c).entries s.journal.setup?) := by
  have hjournal : (s.call source c).2.journal = _ :=
    Journal.snd_call s.correlation source s.journal c
  exact ⟨rfl, by rw [hjournal], by rw [hjournal]; rfl⟩

namespace Logging

def run : Logging → Session → Result Unit × Session
  | done, s => (.ok (), s)
  | raise e, s => (.error e, s)
  | call source c rest, s =>
    let (r, s) := s.call source c
    (rest r).run s
  | block id body rest, s =>
    let (r, s) := s.within id body.run
    (rest r).run s

/-- The calls that are made, the first one first. -/
def trace : Logging → Option String → Session → List Called
  | done, _, _ => []
  | raise _, _, _ => []
  | call source c rest, id, s =>
    let (r, s') := s.call source c
    ⟨id, source, c⟩ :: (rest r).trace id s'
  | block inner body rest, id, s =>
    let (r, s') := s.within inner body.run
    body.trace inner { s with correlation := inner } ++ (rest r).trace id s'

/-- However the calls and blocks end, they add to the journal the entries of the calls. -/
theorem adds (p : Logging) (s : Session) : Adds s (p.run s).2
    ((p.trace s.correlation s).flatMap (Called.entries s.journal.setup?)) := by
  induction p generalizing s with
  | done | raise => exact .refl s
  | call source c rest ih =>
    have hcall := adds_call source c s
    have hrest := ih (s.call source c).1 (s.call source c).2
    rw [hcall.setup, hcall.correlation] at hrest
    exact hcall.trans hrest
  | block id body rest ihbody ihrest =>
    have hblock := Adds.within (ihbody { s with correlation := id })
    have hrest := ihrest (s.within id body.run).1 (s.within id body.run).2
    rw [hblock.setup, hblock.correlation] at hrest
    simp only [run, trace, List.flatMap_append]
    exact hblock.trans hrest

end Logging

end WebKeys.Log
