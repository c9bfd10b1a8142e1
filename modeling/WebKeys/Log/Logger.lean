import WebKeys.Log.Level

/-!
# The logger

All events go to one logger, and each of its handlers writes a line for every event that the logger
lets through. With two handlers everything would be written twice, so setting the logger up takes
away all the handlers that it has before it adds one.

* `Logger.setUp` brings the logger from whatever state it is in to the one that a set-up describes
  (`Logger.setUp_eq`).
-/

namespace WebKeys.Log

/-- Which events are kept, and how they are written. -/
structure Setup where
  level : Level
  json : Bool
  deriving DecidableEq

/-- The least level that is kept. Without a level of its own it is that of warnings. -/
def Setup.threshold (s : Setup) : Level := if s.level = Level.notSet then Level.warning else s.level

/-- What writes lines, of JSON or for people. -/
structure Handler where
  json : Bool
  deriving DecidableEq

/-- A logger by what set-ups change of it. -/
structure Logger where
  level : Level := Level.notSet
  /-- The oldest first. -/
  handlers : List Handler := []
  /-- Whether events go on to the handlers of the logger above. -/
  propagates : Bool := true
  deriving DecidableEq

namespace Logger

def threshold (l : Logger) : Level := Setup.threshold ⟨l.level, false⟩

def addHandler (h : Handler) (l : Logger) : Logger := { l with handlers := l.handlers ++ [h] }

def removeHandler (l : Logger) (h : Handler) : Logger := { l with handlers := l.handlers.erase h }

/-- Takes the handlers away one by one. -/
def withoutHandlers (l : Logger) : Logger := l.handlers.foldl removeHandler l

/-- A set-up: the level, one handler in place of all, and nothing goes on to the logger above. -/
def setUp (v : Setup) (l : Logger) : Logger :=
  { (({ l with level := v.level } : Logger).withoutHandlers.addHandler ⟨v.json⟩) with
    propagates := false }

/-- The logger as it is before anything is set up, or as a set-up describes it. -/
def ofSetup : Option Setup → Logger
  | none => {}
  | some v => { level := v.level, handlers := [⟨v.json⟩], propagates := false }

/-- Handlers removed one by one are all removed in the end. -/
theorem withoutHandlers_eq (l : Logger) : l.withoutHandlers = { l with handlers := [] } := by
  have hfold : ∀ (hs : List Handler) (l : Logger), l.handlers = hs →
      hs.foldl removeHandler l = { l with handlers := [] } := by
    intro hs
    induction hs with
    | nil =>
      intro l hl
      rw [List.foldl_nil, ← hl]
    | cons h hs ih =>
      intro l hl
      have hrest : (l.removeHandler h).handlers = hs := by
        rw [removeHandler, hl, List.erase_cons_head]
      rw [List.foldl_cons, ih _ hrest]
      rfl
  exact hfold l.handlers l rfl

/-- However many handlers there were, one is left, and nothing else of what was there before. -/
theorem setUp_eq (v : Setup) (l : Logger) : l.setUp v = ofSetup (some v) := by
  rw [setUp, withoutHandlers_eq]
  rfl

end Logger

end WebKeys.Log
