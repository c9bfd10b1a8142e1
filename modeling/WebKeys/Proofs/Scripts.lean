import WebKeys.Proofs.Observation

/-!
# Scripts and their journals

A program works on a session by calls, and what it does next may depend on every answer (`Script`).
Around its calls it opens blocks with an identifier, and functions that note their end.

* `Script.trace`: all that occurs, the end of a function after what is inside it. The identifier
  beside it is read off the script, from the innermost block around it.
* `Script.alike_bare`: blocks and notes have no bearing on the answers, which are those of the calls
  alone (`Script.bare`).
* `Script.adds`: the entries of a script are those of its trace. A block puts its identifier in
  force and takes it back, so what is in force is what the trace says, however earlier blocks were
  left.
-/

namespace WebKeys

namespace Session

variable {α : Type} {s s' : Session}

/-! ## Scripts -/

/-- What a program does with a session: a call whose answer decides how it goes on, or something
that encloses another script and goes on with how that ended. -/
inductive Script : Type 1
  | done
  | raise (e : Failure)
  | call {α : Type} (c : Call α) (rest : Result α → Script)
  /-- With an identifier in force, until the body has ended. -/
  | block (id : Option String) (body : Script) (rest : Result Unit → Script)
  /-- A function that notes its end under a name. -/
  | noting (logger name : String) (body : Script) (rest : Result Unit → Script)

/-- A function that notes its end has ended. -/
structure Ended where
  logger : String
  name : String
  outcome : Result Unit

/-- What can leave something in the journal: a call in a session, or the end of a function. -/
inductive Occurrence : Type 1
  | call {α : Type} (c : Call α) (s : Session)
  | ended (e : Ended)

structure Answer : Type 1 where
  {α : Type}
  call : Call α
  result : Result α

def Occurrence.answer? : Occurrence → Option Answer
  | call c s => some ⟨c, (s.run c.perform).1⟩
  | ended _ => none

/-- The calls among all that occurs, with their answers. -/
def answersIn (occurrences : List (Option String × Occurrence)) : List Answer :=
  occurrences.filterMap (·.2.answer?)

@[simp] theorem answersIn_append (xs ys : List (Option String × Occurrence)) :
    answersIn (xs ++ ys) = answersIn xs ++ answersIn ys := List.filterMap_append

@[simp] theorem answersIn_call (id : Option String) (c : Call α) (s : Session)
    (xs : List (Option String × Occurrence)) :
    answersIn ((id, .call c s) :: xs) = ⟨c, (s.run c.perform).1⟩ :: answersIn xs := rfl

@[simp] theorem answersIn_ended (id : Option String) (e : Ended)
    (xs : List (Option String × Occurrence)) :
    answersIn ((id, .ended e) :: xs) = answersIn xs := rfl

namespace Script

/-- How the script ends, by itself or with a failure, and what it leaves behind. -/
def run : Script → Session → Result Unit × Session
  | done, s => (.ok (), s)
  | raise e, s => (.error e, s)
  | call c rest, s =>
    let (r, s) := s.run c.perform
    (rest r).run s
  | block id body rest, s =>
    let (r, s) := s.within id body.run
    (rest r).run s
  | noting logger name body rest, s =>
    let (r, s) := body.run s
    let (r, s) := s.observe (.timed logger name (.ofResult r))
    (rest r).run s

/-- All that occurs in the course of a script, each under the identifier of the innermost block
around it, and the end of a function after all that occurs in the function. -/
def trace : Script → Option String → Session → List (Option String × Occurrence)
  | done, _, _ => []
  | raise _, _, _ => []
  | call c rest, id, s =>
    let (r, s') := s.run c.perform
    (id, .call c s) :: (rest r).trace id s'
  | block inner body rest, id, s =>
    let (r, s') := s.within inner body.run
    body.trace inner { s with correlation := inner } ++ (rest r).trace id s'
  | noting logger name body rest, id, s =>
    let (r, s') := body.run s
    let (r', s'') := s'.observe (.timed logger name (.ofResult r))
    body.trace id s ++ (id, .ended ⟨logger, name, r⟩) :: (rest r').trace id s''

/-- What each call in the script is answered. -/
def answers (p : Script) (s : Session) : List Answer := answersIn (p.trace s.correlation s)

/-! ## The calls alone -/

/-- Goes on with another script when this one has ended. -/
def andThen : Script → (Result Unit → Script) → Script
  | done, f => f (.ok ())
  | raise e, f => f (.error e)
  | call c rest, f => call c fun r => (rest r).andThen f
  | block id body rest, f => block id body fun r => (rest r).andThen f
  | noting logger name body rest, f => noting logger name body fun r => (rest r).andThen f

/-- The script without blocks, and without functions that note anything. -/
def bare : Script → Script
  | done => done
  | raise e => raise e
  | call c rest => call c fun r => (rest r).bare
  | block _ body rest => body.bare.andThen fun r => (rest r).bare
  | noting _ _ body rest => body.bare.andThen fun r => (rest r).bare

theorem run_andThen (p : Script) (f : Result Unit → Script) (s : Session) :
    (p.andThen f).run s = (f (p.run s).1).run (p.run s).2 := by
  induction p generalizing s with
  | done | raise => rfl
  | call c rest ih => exact ih _ _
  | block id body rest _ ih => exact ih _ _
  | noting logger name body rest _ ih => exact ih _ _

theorem trace_andThen (p : Script) (f : Result Unit → Script) (id : Option String) (s : Session) :
    (p.andThen f).trace id s = p.trace id s ++ (f (p.run s).1).trace id (p.run s).2 := by
  induction p generalizing s with
  | done | raise => rfl
  | call c rest ih => exact congrArg _ (ih _ _)
  | block inner body rest _ ih =>
    simp only [andThen, trace, run, ih, List.append_assoc]
  | noting logger name body rest _ ih =>
    simp only [andThen, trace, run, ih, List.append_assoc, List.cons_append]

end Script

/-- In a session that is alike, the calls alone end in the same way and get the same answers. -/
theorem Script.alike_bare (p : Script) (h : Alike s s') (id id' : Option String) :
    (p.bare.run s').1 = (p.run s).1 ∧ Alike (p.run s).2 (p.bare.run s').2 ∧
      answersIn (p.bare.trace id' s') = answersIn (p.trace id s) := by
  induction p generalizing s s' id id' with
  | done | raise => exact ⟨rfl, h, rfl⟩
  | call c rest ih =>
    obtain ⟨hanswer, hafter⟩ := alike_run h c
    obtain ⟨hend, hlast, hanswers⟩ := ih (s.run c.perform).1 hafter id id'
    simp only [bare, run, trace, answersIn_call, hanswer, hanswers]
    exact ⟨hend, hlast, trivial⟩
  | block inner body rest ihbody ihrest =>
    have hinner : Alike { s with correlation := inner } s' := (alike_under _ _ s).symm.trans h
    obtain ⟨hend, hafter, hanswers⟩ := ihbody hinner inner id'
    have hleft : Alike (s.within inner body.run).2 (body.bare.run s').2 :=
      (alike_under _ _ _).symm.trans hafter
    obtain ⟨hend', hlast, hanswers'⟩ := ihrest (s.within inner body.run).1 hleft id id'
    simp only [bare, run, trace, run_andThen, trace_andThen, answersIn_append, hend, hanswers]
    exact ⟨hend', hlast, congrArg _ hanswers'⟩
  | noting logger name body rest ihbody ihrest =>
    obtain ⟨hend, hafter, hanswers⟩ := ihbody h id id'
    obtain ⟨hend', hlast, hanswers'⟩ :=
      ihrest (body.run s).1 ((alike_observe _ _).symm.trans hafter) id id'
    simp only [bare, run, trace, run_andThen, trace_andThen, answersIn_append, answersIn_ended,
      hend, hanswers]
    exact ⟨hend', hlast, congrArg _ hanswers'⟩

end Session

/-! ## Entries -/

namespace Log.Journal

/-- The entries that a journal makes of events. -/
def entriesOf (setup? : Option Setup) (c : Circumstances) (es : List Event) : List Entry :=
  match setup? with
  | none => []
  | some v => (es.filter fun e => v.threshold ≤ e.level).map fun e => ⟨e, c, v.json⟩

theorem entriesOf_nil (setup? : Option Setup) (c : Circumstances) : entriesOf setup? c [] = [] := by
  cases setup? <;> rfl

theorem entriesOf_cons (setup? : Option Setup) (c : Circumstances) (e : Event) (es : List Event) :
    entriesOf setup? c (e :: es) = entriesOf setup? c [e] ++ entriesOf setup? c es := by
  cases setup? with
  | none => rfl
  | some v => by_cases hlevel : v.threshold ≤ e.level <;> simp [entriesOf, hlevel]

/-- Noting an event adds its entries at the end, and changes nothing else. -/
theorem note_eq (c : Circumstances) (j : Journal) (e : Event) :
    note c j e = { j with entries := j.entries ++ entriesOf j.setup? c [e] } := by
  rcases Option.eq_none_or_eq_some j.setup? with hsetup | ⟨v, hsetup⟩
  · have hentries : entriesOf j.setup? c [e] = [] := by
      rw [hsetup]
      rfl
    rw [note_of_none hsetup, hentries, List.append_nil]
  · have hentries : entriesOf j.setup? c [e] =
        if v.threshold ≤ e.level then [⟨e, c, v.json⟩] else [] := by
      rw [hsetup]
      by_cases hlevel : v.threshold ≤ e.level <;> simp [entriesOf, hlevel]
    rw [note_of_some hsetup, hentries]
    by_cases hlevel : v.threshold ≤ e.level
    · rw [if_pos hlevel, if_pos hlevel]
    · rw [if_neg hlevel, if_neg hlevel, List.append_nil]

theorem entries_note (c : Circumstances) (j : Journal) (e : Event) :
    (note c j e).entries = j.entries ++ entriesOf j.setup? c [e] := by
  rw [note_eq]

theorem noteAll_eq (c : Circumstances) (j : Journal) (es : List Event) :
    j.noteAll c es = { j with entries := j.entries ++ entriesOf j.setup? c es } := by
  induction es generalizing j with
  | nil =>
    rw [entriesOf_nil, List.append_nil]
    rfl
  | cons e es ih =>
    rw [noteAll, List.foldl_cons, ← noteAll, ih, note_eq, entriesOf_cons j.setup? c e es,
      ← List.append_assoc]

end Log.Journal

namespace Session

open Log (Entry Setup)

variable {α : Type} {s s' : Session}

def Occurrence.events : Occurrence → List Log.Event
  | call c s => (c.perform s).1.events
  | ended e => [Traced.ended e.logger e.name e.outcome]

/-- The entries that a journal makes of what occurs, each with the identifier it occurs under. -/
def entriesIn (setup? : Option Setup) (xs : List (Option String × Occurrence)) : List Entry :=
  xs.flatMap fun m => Log.Journal.entriesOf setup? { correlation := m.1 } m.2.events

@[simp] theorem entriesIn_append (setup? : Option Setup)
    (xs ys : List (Option String × Occurrence)) :
    entriesIn setup? (xs ++ ys) = entriesIn setup? xs ++ entriesIn setup? ys :=
  List.flatMap_append

theorem entriesIn_cons (setup? : Option Setup) (id : Option String) (x : Occurrence)
    (xs : List (Option String × Occurrence)) : entriesIn setup? ((id, x) :: xs) =
      Log.Journal.entriesOf setup? { correlation := id } x.events ++ entriesIn setup? xs := rfl

/-- On the way from one session to the other these entries have been added to the journal, and it is
the same identifier that is in force. -/
structure Adds (s s' : Session) (added : List Entry) : Prop where
  correlation : s'.correlation = s.correlation
  setup : s'.journal.setup? = s.journal.setup?
  entries : s'.journal.entries = s.journal.entries ++ added

namespace Adds

theorem refl (s : Session) : Adds s s [] := ⟨rfl, rfl, (List.append_nil _).symm⟩

theorem trans {s'' : Session} {added added' : List Entry} (h : Adds s s' added)
    (h' : Adds s' s'' added') : Adds s s'' (added ++ added') where
  correlation := h'.correlation.trans h.correlation
  setup := h'.setup.trans h.setup
  entries := by rw [h'.entries, h.entries, List.append_assoc]

theorem observe (t : Traced α) (s : Session) : Adds s (s.observe t).2
    (Log.Journal.entriesOf s.journal.setup? { correlation := s.correlation } t.events) := by
  have hjournal : (s.observe t).2.journal = _ := Log.Journal.noteAll_eq _ _ _
  exact ⟨rfl, by rw [hjournal], by rw [hjournal]⟩

theorem run (c : Call α) (s : Session) : Adds s (s.run c.perform).2
    (Log.Journal.entriesOf s.journal.setup? { correlation := s.correlation }
      (c.perform s).1.events) := by
  have hblind := c.blind s.journal s.correlation s
  have hjournal : (c.perform s).2.journal = s.journal := congrArg (fun r => r.2.journal) hblind
  have hid : (c.perform s).2.correlation = s.correlation :=
    congrArg (fun r => r.2.correlation) hblind
  have hadds := observe (c.perform s).1 (c.perform s).2
  rw [hjournal, hid] at hadds
  exact ⟨hadds.correlation.trans hid, hadds.setup.trans (by rw [hjournal]),
    hadds.entries.trans (by rw [hjournal])⟩

/-- The identifier that was in force before a block is so again after it. -/
theorem within {β : Type} {f : Session → β × Session} {id : Option String} {added : List Entry}
    (h : Adds { s with correlation := id } (f { s with correlation := id }).2 added) :
    Adds s (s.within id f).2 added :=
  ⟨correlation_within id f s, h.setup, h.entries⟩

end Adds

/-- However a script ends, it adds to the journal the entries of what occurs in it. -/
theorem Script.adds (p : Script) (s : Session) :
    Adds s (p.run s).2 (entriesIn s.journal.setup? (p.trace s.correlation s)) := by
  induction p generalizing s with
  | done | raise => exact .refl s
  | call c rest ih =>
    have hcall := Adds.run c s
    have hrest := ih (s.run c.perform).1 (s.run c.perform).2
    rw [hcall.setup, hcall.correlation] at hrest
    simp only [run, trace, entriesIn_cons]
    exact hcall.trans hrest
  | block inner body rest ihbody ihrest =>
    have hbody := (ihbody { s with correlation := inner }).within
    have hrest := ihrest (s.within inner body.run).1 (s.within inner body.run).2
    rw [hbody.setup, hbody.correlation] at hrest
    simp only [run, trace, entriesIn_append]
    exact hbody.trans hrest
  | noting logger name body rest ihbody ihrest =>
    have hbody := ihbody s
    have hnoted := hbody.trans
      (.observe (.timed logger name (.ofResult (body.run s).1)) (body.run s).2)
    have hrest := ihrest (body.run s).1
      ((body.run s).2.observe (.timed logger name (.ofResult (body.run s).1))).2
    rw [hnoted.setup, hnoted.correlation] at hrest
    rw [hbody.setup, hbody.correlation] at hnoted
    simp only [run, trace, entriesIn_append, entriesIn_cons]
    rw [← List.append_assoc]
    exact hnoted.trans hrest

end Session

end WebKeys
