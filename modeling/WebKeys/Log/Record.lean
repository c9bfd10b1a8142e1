import WebKeys.Json.Shown
import WebKeys.Json.Writer
import WebKeys.Log.Event
import WebKeys.Log.Mask

/-!
# Records and lines

A record is an event as it is written: with the correlation identifier in force, the place in the
program, and an exception if one is being reported. It becomes a line of JSON or a line for people.

* In JSON the fields come after the record's own members, and a field of the same name takes the
  place of the member's value. Records from `warning` upwards end with their place.
* For people the line is coloured by level, and shows the first eight characters of the
  identifier.
-/

namespace WebKeys.Log

/-- A place in a program. -/
structure Source where
  file : String
  line : Nat
  function : String

/-- The time at which a line is written: in full, as a time of day, and since an operation began,
in milliseconds. -/
structure Moment where
  timestamp : String
  timeOfDay : String
  elapsed : Decimal

/-- An event as it is written. -/
structure Record where
  level : Level
  logger : String
  message : String
  fields : Members := []
  correlation : Option String := none
  exception : Option String := none
  source : Source

/-- An identifier that is set and not empty. -/
def Record.identifier? (r : Record) : Option String := r.correlation.filter (· ≠ "")

def Source.toJson (s : Source) : Json :=
  .object [("file", .string s.file), ("line", .int s.line), ("function", .string s.function)]

/-- The text of an exception of a kind. -/
def exceptionText (kind text : String) : String :=
  if text.isEmpty then kind else kind ++ ": " ++ text

/-! ## Lines of JSON -/

namespace Record

/-- The members that every record has. -/
def ownMembers (now : Moment) (r : Record) : Members :=
  [("timestamp", .string now.timestamp), ("level", .string r.level.name),
   ("logger", .string r.logger), ("message", .string r.message)]
    ++ (r.identifier?.map fun cid => ("correlation_id", Json.string cid)).toList

/-- The members of the line: first the record's own, then the masked fields, which may take their
place, and at last exception and place. -/
def members (now : Moment) (r : Record) : Members :=
  let ms := Members.update (r.ownMembers now) (mask r.fields)
  let ms := match r.exception with
    | some text => Members.put ms "exception" (.string text)
    | none => ms
  if Level.warning ≤ r.level then Members.put ms "source" r.source.toJson else ms

def toJsonLine (now : Moment) (r : Record) : String := (Json.object (r.members now)).toText

/-! ## Lines for people -/

def colour (levelName : String) : String :=
  match levelName with
  | "DEBUG" => "\x1b[36m"
  | "INFO" => "\x1b[32m"
  | "WARNING" => "\x1b[33m"
  | "ERROR" => "\x1b[31m"
  | "CRITICAL" => "\x1b[35m"
  | _ => ""

def plain : String := "\x1b[0m"

/-- The first `n` characters of a text. -/
def firstOf (n : Nat) (s : String) : String := String.ofList (s.toList.take n)

/-- The fields after a bar, masked. -/
def fieldsText (fields : Members) : String :=
  if fields.isEmpty then ""
  else " | " ++ String.intercalate " " ((mask fields).map fun m => m.1 ++ "=" ++ m.2.shown)

def toHumanLine (now : Moment) (r : Record) : String :=
  let name := r.level.name
  let cid := match r.identifier? with
    | some cid => s!"[cid={firstOf 8 cid}] "
    | none => ""
  let line := s!"{colour name}{now.timeOfDay} {firstOf 4 name}{plain} [{r.logger}] {cid}"
    ++ r.message ++ fieldsText r.fields
  match r.exception with
  | some text => line ++ "\n" ++ text
  | none => line

end Record

/-! ## Events -/

/-- An event as a record; one that notes its time gets it as the last field. -/
def Event.toRecord (now : Moment) (correlation : Option String) (source : Source)
    (e : Event) : Record where
  level := e.level
  logger := e.logger
  message := e.message
  fields := if e.timed then e.fields ++ [("duration_ms", .float now.elapsed)] else e.fields
  correlation := correlation
  source := source

end WebKeys.Log
