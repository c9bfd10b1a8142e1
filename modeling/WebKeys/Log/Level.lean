import WebKeys.Text.Casing

/-!
# Levels

The importance of an event as a number; five numbers and zero have names. A level may be given by
its name in any case, and two names have a second spelling.
-/

namespace WebKeys.Log

/-- A level by its number; those without a name are levels as well. -/
abbrev Level := Int

namespace Level

def notSet : Level := 0

def debug : Level := 10

def info : Level := 20

def warning : Level := 30

def error : Level := 40

def critical : Level := 50

/-- The name that lines show. -/
def name (l : Level) : String :=
  match l with
  | 0 => "NOTSET"
  | 10 => "DEBUG"
  | 20 => "INFO"
  | 30 => "WARNING"
  | 40 => "ERROR"
  | 50 => "CRITICAL"
  | n => s!"Level {n}"

def names : List (String × Level) :=
  [("NOTSET", notSet), ("DEBUG", debug), ("INFO", info), ("WARNING", warning), ("WARN", warning),
   ("ERROR", error), ("CRITICAL", critical), ("FATAL", critical)]

/-- The level of a name in letters of any size. -/
def ofName? (s : String) : Option Level :=
  (Text.capitals? s).bind fun name => List.lookup name names

end Level

end WebKeys.Log
