import WebKeys.Log.Logger
import WebKeys.Log.Record
import WebKeys.Log.Template

/-!
# The journal

Where events go. Before the journal is set up nothing is kept. After that it keeps every event at or
above its threshold, each with what was in force when it came in, and an entry becomes a line when
the time of writing is known.

* `Journal.note` takes in an event, `Journal.call` a message with arguments and fields.
* Neither has any bearing on the set-up, and a set-up replaces the one before it.
-/

namespace WebKeys.Log

/-- What comes along with an event. -/
structure Circumstances where
  correlation : Option String := none
  exception : Option String := none
  source : Source := ⟨"", 0, ""⟩

/-- An event that was kept, with what came along and the format of its handler. -/
structure Entry where
  event : Event
  circumstances : Circumstances
  json : Bool

/-- The record of an entry that is written at this time. -/
def Entry.record (now : Moment) (e : Entry) : Record :=
  { e.event.toRecord now e.circumstances.correlation e.circumstances.source with
    exception := e.circumstances.exception }

def Entry.line (now : Moment) (e : Entry) : String :=
  let r := e.record now
  if e.json then r.toJsonLine now else r.toHumanLine now

/-- The entries that were kept, and the set-up that decides what is. -/
structure Journal where
  /-- The last set-up that was made. -/
  setup? : Option Setup := none
  /-- The logger, which is in the state that the last set-up has left it in. -/
  logger : Logger := .ofSetup setup?
  logger_eq : logger = .ofSetup setup? := by rfl
  /-- The oldest first. -/
  entries : List Entry := []

namespace Journal

/-- A journal that is not set up. -/
def new : Journal := {}

/-- Sets the logger up anew. Entries that were kept stay. -/
def setUp (v : Setup) (j : Journal) : Journal where
  setup? := some v
  logger := j.logger.setUp v
  logger_eq := j.logger.setUp_eq v
  entries := j.entries

def keeps (j : Journal) (level : Level) : Bool := j.logger.threshold ≤ level

/-- Each handler makes an entry of an event that is kept. -/
def note (c : Circumstances) (j : Journal) (e : Event) : Journal :=
  if j.keeps e.level then
    { j with entries := j.entries ++ j.logger.handlers.map fun h => ⟨e, c, h.json⟩ }
  else j

/-- Nothing is kept before the journal is set up. -/
theorem note_of_none {j : Journal} (h : j.setup? = none) (c : Circumstances) (e : Event) :
    note c j e = j := by
  have hhandlers : j.logger.handlers = [] := by
    rw [j.logger_eq, h]
    rfl
  rw [note, hhandlers, List.map_nil, List.append_nil]
  exact ite_self j

theorem note_of_some {j : Journal} {v : Setup} (h : j.setup? = some v) (c : Circumstances)
    (e : Event) : note c j e =
      if v.threshold ≤ e.level then { j with entries := j.entries ++ [⟨e, c, v.json⟩] } else j := by
  have hhandlers : j.logger.handlers = [⟨v.json⟩] := by
    rw [j.logger_eq, h]
    rfl
  have hkeeps : j.keeps e.level = decide (v.threshold ≤ e.level) := by
    rw [keeps, j.logger_eq, h]
    rfl
  rw [note, hhandlers, hkeeps, List.map_cons, List.map_nil]
  simp only [decide_eq_true_eq]

def noteAll (c : Circumstances) (j : Journal) (es : List Event) : Journal := es.foldl (note c) j

/-! ## Messages with arguments -/

/-- The kinds of calls that log a message. -/
inductive Method
  | debug
  | info
  | warning
  | error
  /-- An error together with the exception at hand. -/
  | exception
  /-- The one kind of call that takes no fields, but options. -/
  | critical
  deriving DecidableEq

def Method.level : Method → Level
  | debug => Level.debug
  | info => Level.info
  | warning => Level.warning
  | error | exception => Level.error
  | critical => Level.critical

/-- A call that logs a message: arguments fill it, and fields come after it. -/
structure Call where
  method : Method
  logger : String
  message : String
  arguments : List Json := []
  fields : Members := []

namespace Call

/-- The field that asks for the exception at hand. -/
def exceptionField : String := "exc_info"

/-- Names that stand for parts of the call and cannot be fields. -/
def reserved : List String := ["self", "msg"]

/-- Names that are in the way of writing, and so are refused only when something is written. -/
def reservedInWriting : List String := ["level", "args"]

/-- What a critical call takes by name in place of fields: the exception at hand, attributes for the
record, and where to look for the place of the call. None of it is shown. -/
def options : List String := [exceptionField, "extra", "stack_info", "stacklevel"]

/-- Attributes that every record has, so that none can be given under their names. The last one is
there for fields, and is not open to callers that give attributes. -/
def ownAttributes : List String :=
  ["message", "asctime", "name", "msg", "args", "levelname", "levelno", "pathname", "filename",
   "module", "exc_info", "exc_text", "stack_info", "lineno", "funcName", "created", "msecs",
   "relativeCreated", "thread", "threadName", "processName", "process", "extra_fields"]

/-- Why attributes cannot be added to a record, if they cannot: only members with other names than
the record's own can, or none at all. -/
def attributeFault? : Json → Option Failure
  | .null | .string "" | .array [] => none
  | .object ms => (ms.find? fun m => ownAttributes.contains m.1).map fun m => .attributeTaken m.1
  | _ => some .badCall

/-- Whether callers can be counted by this. -/
def counts : Json → Bool
  | .int _ | .float _ | .bool _ => true
  | _ => false

/-- Whether a call has a field of one of these names. -/
def hasField (c : Call) (names : List String) : Bool := c.fields.any fun m => names.contains m.1

/-- The names that are no fields in a call of this kind. -/
def unshown : Method → List String
  | .critical => options
  | _ => [exceptionField]

/-- The fields to be written. -/
def shownFields (c : Call) : Members := c.fields.filter fun m => !(unshown c.method).contains m.1

/-- Why the options of a call cannot be followed, if they cannot. -/
def optionFault? (c : Call) : Option Failure :=
  if (Members.get? c.fields "stacklevel").all counts then
    (Members.get? c.fields "extra").bind attributeFault?
  else some .badCall

/-- Why a call that is to be written is refused for its fields or its options, if it is. -/
def faultInWriting? (c : Call) : Option Failure :=
  if c.hasField reservedInWriting then some .badCall
  else if c.method = .critical then
    if c.shownFields.isEmpty then c.optionFault? else some .badCall
  else none

/-- Whether a call asks for the exception at hand. -/
def wantsException (c : Call) : Bool :=
  match Members.get? c.fields exceptionField with
  | some v => v.isTruthy
  | none => c.method == .exception

/-- What is written about an exception when there is none. -/
def noException : String := "NoneType: None"

end Call

/-- Takes in a call. One whose arguments do not fit its message leaves no entry. -/
def call (c : Circumstances) (j : Journal) (call : Call) : Result Unit × Journal :=
  if call.hasField Call.reserved then (.error .badCall, j)
  else if j.keeps call.method.level then
    match call.faultInWriting? with
    | some fault => (.error fault, j)
    | none =>
      match Template.fill call.message call.arguments with
      | .error _ => (.ok (), j)
      | .ok message =>
        let c := if call.wantsException then { c with exception := some Call.noException } else c
        (.ok (), j.note c ⟨call.logger, call.method.level, message, call.shownFields, false⟩)
  else (.ok (), j)

end Journal

end WebKeys.Log
