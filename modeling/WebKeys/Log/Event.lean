import WebKeys.Failure
import WebKeys.Json
import WebKeys.Log.Level

/-!
# Events

An event is something worth a line in the log. Operations list their events beside their result
and do not know whether anyone looks at them.

* `Traced` is a result with the events on the way to it.
* `Traced.timed` adds the event that a named operation ended, well or badly.
-/

namespace WebKeys

namespace Log

/-- Something to be logged, before it is known when and where. -/
structure Event where
  logger : String
  level : Level
  message : String
  fields : Members
  /-- Whether the time that the operation took is noted too. -/
  timed : Bool := false

end Log

open Log (Event)

/-- A result together with the events on the way to it. -/
structure Traced (α : Type) where
  result : Result α
  events : List Event := []

namespace Traced

variable {α β : Type}

/-- Goes on with a success; the events of both parts follow each other. -/
def andThen (t : Traced α) (f : α → Traced β) : Traced β :=
  match t.result with
  | .ok a => ⟨(f a).result, t.events ++ (f a).events⟩
  | .error e => ⟨.error e, t.events⟩

/-- A result on whose way there was no event. -/
def ofResult (r : Result α) : Traced α := ⟨r, []⟩

/-- The event that a named operation ended. -/
def ended (logger name : String) (r : Result α) : Event :=
  match r with
  | .ok _ => ⟨logger, Log.Level.debug, name ++ " completed", [("operation", .string name)], true⟩
  | .error e =>
    ⟨logger, Log.Level.debug, name ++ " failed",
     [("operation", .string name), ("error", .string e.message),
      ("error_type", .string e.kindName), ("key_type", Json.ofOption e.keyType?)],
     true⟩

/-- An operation that notes its end, after whatever its parts note. -/
def timed (logger name : String) (t : Traced α) : Traced α :=
  ⟨t.result, t.events ++ [ended logger name t.result]⟩

@[simp] theorem result_timed (logger name : String) (t : Traced α) :
    (timed logger name t).result = t.result := rfl

@[simp] theorem result_andThen (t : Traced α) (f : α → Traced β) :
    (t.andThen f).result = t.result.bind fun a => (f a).result := by
  unfold andThen
  split <;> simp_all [Except.bind]

theorem andThen_of_ok {t : Traced α} {a : α} (h : t.result = .ok a) (f : α → Traced β) :
    t.andThen f = ⟨(f a).result, t.events ++ (f a).events⟩ := by
  rw [andThen, h]

/-- A step that fails ends the chain with its own events. -/
theorem andThen_of_error {t : Traced α} {e : Failure} (h : t.result = .error e)
    (f : α → Traced β) : t.andThen f = ⟨.error e, t.events⟩ := by
  rw [andThen, h]

end Traced

end WebKeys
