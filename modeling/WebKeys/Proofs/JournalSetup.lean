import WebKeys.Proofs.JournalCalls

/-!
# Setting the journal up

A program may set its journal up as often as it likes, and each time it may fail. The settings are
read first and the level is looked up next; only then is the logger touched, and from there on
nothing can fail. So the logger is always as the last call that succeeded has left it, and a second
call never makes lines come twice.

* `SettingUp`: all that a call can do.
* `setUps`: the set-ups of the calls that succeed in the course of a program.
* `setup?_afterSteps`: the one in force is the last of them.
-/

namespace WebKeys.Session

open Log (Entry Level Logger Setup)

/-! ## One call -/

/-- How a call goes. -/
inductive SettingUp (json : Option Bool) (level : Option String) (s : Session) : Prop
  | unreadable (e : Failure) (hsettings : s.consult.1 = .error e)
      (hrun : s.setUpJournal json level = (.error e, s.consult.2))
  | unknown (v : Settings) (hsettings : s.consult.1 = .ok v)
      (hlevel : Level.ofName? (level.getD v.logLevel) = none)
      (hrun : s.setUpJournal json level =
        (.error (.unknownLevel (level.getD v.logLevel)), s.consult.2))
  | made (v : Settings) (l : Level) (hsettings : s.consult.1 = .ok v)
      (hlevel : Level.ofName? (level.getD v.logLevel) = some l)
      (hrun : s.setUpJournal json level = (.ok ⟨l, json.getD v.logJson⟩,
        { s.consult.2 with journal := s.consult.2.journal.setUp ⟨l, json.getD v.logJson⟩ }))

variable {s : Session}

theorem settingUp (json : Option Bool) (level : Option String) (s : Session) :
    SettingUp json level s := by
  cases hsettings : s.consult.1 with
  | error e => exact .unreadable e hsettings (by simp only [setUpJournal, hsettings])
  | ok v =>
    cases hlevel : Level.ofName? (level.getD v.logLevel) with
    | none => exact .unknown v hsettings hlevel (by simp only [setUpJournal, hsettings, hlevel])
    | some l => exact .made v l hsettings hlevel (by simp only [setUpJournal, hsettings, hlevel])

theorem journal_consult (s : Session) : s.consult.2.journal = s.journal := by
  rw [consult_snd]

/-- A call that fails leaves the journal as it was, with its logger. -/
theorem journal_setUpJournal_of_error {json : Option Bool} {level : Option String} {e : Failure}
    (h : (s.setUpJournal json level).1 = .error e) :
    (s.setUpJournal json level).2.journal = s.journal := by
  cases settingUp json level s with
  | unreadable e hsettings hrun => rw [hrun, journal_consult]
  | unknown v hsettings hlevel hrun => rw [hrun, journal_consult]
  | made v l hsettings hlevel hrun =>
    rw [hrun] at h
    cases h

/-- A call succeeds exactly where the settings can be read and the level has the name asked for,
and what it does not say itself is up to the settings. -/
theorem setUpJournal_ok_iff {json : Option Bool} {level : Option String} {v : Setup} :
    (s.setUpJournal json level).1 = .ok v ↔ ∃ settings, s.consult.1 = .ok settings ∧
      Level.ofName? (level.getD settings.logLevel) = some v.level ∧
      v.json = json.getD settings.logJson := by
  cases settingUp json level s with
  | unreadable e hsettings hrun => simp [hrun, hsettings]
  | unknown settings hsettings hlevel hrun => simp [hrun, hsettings, hlevel]
  | made settings l hsettings hlevel hrun =>
    simp only [hrun, hsettings, Except.ok.injEq, exists_eq_left', hlevel, Option.some.injEq]
    exact ⟨fun h => by rw [← h]; exact ⟨rfl, rfl⟩, fun ⟨hl, hjson⟩ => by rw [hl, ← hjson]⟩

/-! ## The steps of a program -/

/-- A call that sets the journal up, a change of what such calls depend on, or a use of the
journal. -/
inductive JournalStep : Type 1
  | setUp (json : Option Bool) (level : Option String)
  | setEnvironment (changes : List (String × Option String))
  | setAssignments (assignments : Environment)
  | forgetSettings
  | log (id : Option String) (source : Log.Source) (c : Log.Journal.Call)
  | run (p : Script)
  | takeEntries

/-- What a step leaves behind. -/
def journalStep : JournalStep → Session → Session
  | .setUp json level, s => (s.setUpJournal json level).2
  | .setEnvironment changes, s => s.setEnvironment changes
  | .setAssignments assignments, s => { s with assignments := assignments }
  | .forgetSettings, s => s.forgetSettings
  | .log id source c, s => (s.within id (call source c)).2
  | .run p, s => (p.run s).2
  | .takeEntries, s => s.takeEntries.2

/-- The set-up that a step makes. -/
def setupOf? : JournalStep → Session → Option Setup
  | .setUp json level, s => (s.setUpJournal json level).1.toOption
  | _, _ => none

def afterSteps (steps : List JournalStep) (s : Session) : Session :=
  steps.foldl (fun s a => journalStep a s) s

/-- The set-ups that the steps make, the first one first. -/
def setUps : List JournalStep → Session → List Setup
  | [], _ => []
  | a :: rest, s => (setupOf? a s).toList ++ setUps rest (journalStep a s)

/-- No step but a call that succeeds has a bearing on the set-up in force. -/
theorem setup?_journalStep (a : JournalStep) (s : Session) :
    (journalStep a s).journal.setup? = (setupOf? a s).or s.journal.setup? := by
  cases a with
  | setUp json level =>
    cases settingUp json level s with
    | unreadable e hsettings hrun | unknown v hsettings hlevel hrun =>
      rw [journalStep, setupOf?, hrun, journal_consult]
      rfl
    | made v l hsettings hlevel hrun =>
      rw [journalStep, setupOf?, hrun]
      rfl
  | setEnvironment | setAssignments | forgetSettings | takeEntries => rfl
  | log id source c => exact (Adds.within (Log.adds_call source c _)).setup
  | run p => exact (p.adds s).setup

theorem setup?_afterSteps (steps : List JournalStep) (s : Session) :
    (afterSteps steps s).journal.setup? = (setUps steps s).getLast?.or s.journal.setup? := by
  induction steps generalizing s with
  | nil => rfl
  | cons a rest ih =>
    have hrest := ih (journalStep a s)
    rw [setup?_journalStep, ← Option.or_assoc] at hrest
    refine hrest.trans (congrArg (Option.or · _) ?_)
    have hfirst : (setupOf? a s).toList.getLast? = setupOf? a s := by cases setupOf? a s <;> rfl
    rw [setUps, List.getLast?_append, hfirst]

/-! ## One handler -/

theorem length_handlers_ofSetup (made : List Setup) :
    (Logger.ofSetup made.getLast?).handlers.length = if made = [] then 0 else 1 := by
  cases hlast : made.getLast? with
  | none => rw [if_pos (List.getLast?_eq_none_iff.mp hlast), Logger.ofSetup, List.length_nil]
  | some v =>
    have hmade : made ≠ [] := fun h => by
      rw [h] at hlast
      cases hlast
    rw [if_neg hmade, Logger.ofSetup, List.length_singleton]

/-- After any steps from a new session, calls that set the journal up among them, the logger is as
the last call that succeeded has left it, and as it was at first if none has: it has one handler or
none. The next call succeeds exactly where the settings can be read and the level has a name, and
otherwise leaves the journal as it is. Of an event that is kept there is one entry. -/
theorem set_up_as_a_whole (environment assignments : Environment) (entropy : Entropy)
    (steps : List JournalStep) :
    let s₀ : Session :=
      { environment := environment, assignments := assignments, entropy := entropy }
    let s := afterSteps steps s₀
    let made := setUps steps s₀
    (s.journal.logger = match made.getLast? with
      | none => { level := Level.notSet, handlers := [], propagates := true }
      | some v => { level := v.level, handlers := [⟨v.json⟩], propagates := false }) ∧
    (s.journal.logger.handlers.length = if made = [] then 0 else 1) ∧
    (∀ json level v, (s.setUpJournal json level).1 = .ok v ↔ ∃ settings,
      s.consult.1 = .ok settings ∧ Level.ofName? (level.getD settings.logLevel) = some v.level ∧
        v.json = json.getD settings.logJson) ∧
    (∀ json level e, (s.setUpJournal json level).1 = .error e →
      (s.setUpJournal json level).2.journal = s.journal) ∧
    (∀ c e, (s.journal.note c e).entries = s.journal.entries ++ match made.getLast? with
      | none => []
      | some v => if v.threshold ≤ e.level then [⟨e, c, v.json⟩] else []) ∧
    ∀ p : Script, (p.run s).2.journal.entries =
      s.journal.entries ++ entriesIn made.getLast? (p.trace s.correlation s) := by
  intro s₀ s made
  have hsetup : s.journal.setup? = made.getLast? :=
    (setup?_afterSteps steps s₀).trans (Option.or_none)
  have hlogger : s.journal.logger = .ofSetup made.getLast? := hsetup ▸ s.journal.logger_eq
  refine ⟨?_, ?_, fun json level v => setUpJournal_ok_iff,
    fun json level e => journal_setUpJournal_of_error, fun c e => ?_, fun p => ?_⟩
  · rw [hlogger]
    cases made.getLast? <;> rfl
  · rw [hlogger, length_handlers_ofSetup]
  · rw [Log.Journal.entries_note, hsetup]
    cases made.getLast? with
    | none => rfl
    | some v => by_cases hlevel : v.threshold ≤ e.level <;> simp [Log.Journal.entriesOf, hlevel]
  · rw [(p.adds s).entries, hsetup]

/-- Neither a level that no one knows nor settings that cannot be read undo what came before. -/
theorem set_up_survives_failures :
    let s := afterSteps [.setUp (some true) (some "debug"), .setUp (some false) (some "error"),
      .setUp (some true) (some "loud"), .setEnvironment [("KMSJWK_LOG_LEVEL", some "loud")],
      .forgetSettings] { entropy := { seed := [] } }
    (∃ e, (s.setUpJournal none none).1 = .error e) ∧
      (s.setUpJournal none none).2.journal.logger =
        { level := Level.error, handlers := [⟨false⟩], propagates := false } := by
  intro s
  obtain ⟨hlogger, -, -, hfailing, -⟩ := set_up_as_a_whole [] [] { seed := [] }
    [.setUp (some true) (some "debug"), .setUp (some false) (some "error"),
      .setUp (some true) (some "loud"), .setEnvironment [("KMSJWK_LOG_LEVEL", some "loud")],
      .forgetSettings]
  have herror : ∃ e, (s.setUpJournal none none).1 = .error e := ⟨_, rfl⟩
  obtain ⟨e, he⟩ := herror
  refine ⟨⟨e, he⟩, ?_⟩
  rw [hfailing none none e he]
  exact hlogger

end WebKeys.Session
