import WebKeys.CommandLine.Arguments
import WebKeys.Session
import WebKeys.Yaml

/-!
# Running a command

From the arguments, the input and the environment to what is printed and the exit code.

* `decodeInput` undoes the way in which the bytes of a key are written.
* `run` never fails but for settings that cannot be read and for a file name that no file can have.
  Faults of the input, of the arguments and of the key store have exit codes of their own.
-/

namespace WebKeys.CommandLine

/-! ## Input -/

/-- Why a file cannot be read. -/
inductive ReadFault
  | missing
  | directory
  | notDirectory
  | other (text : String)

def ReadFault.message : ReadFault → String
  | missing => "No such file or directory"
  | directory => "Is a directory"
  | notDirectory => "Not a directory"
  | other text => text

/-- Where input comes from. -/
inductive Source
  | standard
  | file (name : String)
  deriving DecidableEq

/-- The named file; without a name, and under the name `-`, the standard input. -/
def ConvertArguments.source (a : ConvertArguments) : Source :=
  match a.file with
  | none | some "" | some "-" => .standard
  | some name => .file name

/-- Whether there can be a file of that name at all. -/
def Source.isPossible : Source → Bool
  | standard => true
  | file name => !name.contains '\x00'

/-- White space of ASCII. -/
def isSpace (b : UInt8) : Bool := b == 32 || (9 ≤ b && b ≤ 13)

/-- Bytes as the characters of the same numbers, which is how digits are read from them. -/
def characters (bs : Bytes) : List Char := bs.map fun b => Char.ofNat b.toNat

/-- The bytes of a key from the way they are written, or the fault of a text that is none. White
space does not count in a text. -/
def decodeInput (input : InputFormat) (bs : Bytes) : Except String Bytes :=
  let text := characters (bs.filter fun b => !isSpace b)
  match input with
  | .raw => .ok bs
  | .hex =>
    match Hex.decode? text with
    | some bs => .ok bs
    | none => .error "the text is not hexadecimal"
  | .base64 => (Base64.decode .standard text).mapError fun fault => (Refusal.text fault).message

/-! ## Outcomes -/

/-- How the program ends: well, with an error of its own, without its input, or with bad
arguments. -/
inductive ExitCode
  | ok
  | failed
  | unreadable
  | misuse
  deriving DecidableEq

def ExitCode.number : ExitCode → Nat
  | ok => 0
  | failed => 1
  | unreadable => 2
  | misuse => 3

/-- What goes to the standard output. -/
inductive Output
  | nothing
  | help
  | text (s : String)

/-- What goes to the standard error, after the journal. -/
inductive Complaint
  | usage
  | error (text : String)

/-- All that a run of the program leaves behind. -/
structure Outcome where
  code : ExitCode
  output : Output := .nothing
  complaint : Option Complaint := none
  entries : List Log.Entry := []

/-! ## Colours -/

def red : String := "\x1b[91m"

def cyan : String := "\x1b[96m"

def bold : String := "\x1b[1m"

def uncoloured : String := "\x1b[0m"

def paint (colours : Bool) (colour text : String) : String :=
  if colours then colour ++ text ++ uncoloured else text

/-- Ends with a complaint and without output. -/
def complain (colours : Bool) (code : ExitCode) (text : String) : Outcome where
  code := code
  complaint := some (.error (paint colours red ("error: " ++ text)))

/-! ## Commands -/

/-- A text with blanks after it, up to a width. -/
def padRight (width : Nat) (s : String) : String :=
  s ++ String.ofList (List.replicate (width - s.length) ' ')

def typeRow (colours : Bool) (t : KeyType) : String :=
  let curve := (t.curve?.map (·.name)).getD "-"
  paint colours cyan (padRight 22 t.tag) ++ " " ++ padRight 10 t.family.name ++ " "
    ++ padRight 14 curve ++ " " ++ t.layout.name

def typeTable (colours : Bool) : String :=
  let heading := padRight 22 "KEY TYPE" ++ " " ++ padRight 10 "FAMILY" ++ " "
    ++ padRight 14 "CURVE" ++ " ENCODING"
  String.intercalate "\n" (paint colours bold heading :: KeyType.all.map (typeRow colours))

def typeJson (t : KeyType) : Json :=
  .object [("key_type", .string t.tag), ("family", .string t.family.name),
    ("curve", Json.ofOption (t.curve?.map (·.name))), ("encoding", .string t.layout.name)]

/-- Lists the registered key types, which needs no session. -/
def listTypes (colours : Bool) (a : TypesArguments) : Outcome :=
  match a.format with
  | .text => { code := .ok, output := .text (typeTable colours) }
  | .json => { code := .ok, output := .text (Json.array (KeyType.all.map typeJson)).toLines }

/-- The document of a web key as it is printed. -/
def render (format : Format) (k : WebKey) : Result String := do
  let members ← k.members
  match format with
  | .json => return (WebKey.documentOf members).toLines
  | .yaml => return Yaml.document members

def printed (format : Format) (k : WebKey) : Result Outcome := do
  return { code := .ok, output := .text (← render format k) }

/-- A tag that is not registered is a misuse of the program. -/
def unknownType (colours : Bool) (tag : String) : Outcome :=
  complain colours .misuse
    ((Reason.unknownTag tag).message ++ " (run 'kmsjwk types' for the list)")

/-- Prints what was made, or complains of a failure that is the caller's or the store's. -/
def conclude (colours : Bool) (format : Format) : Result WebKey → Result Outcome
  | .ok k => printed format k
  | .error (.conversion e) => .ok (complain colours .failed e.message)
  | .error (.store fault) => .ok (complain colours .failed (Failure.store fault).message)
  | .error e => .error e

/-- Converts the bytes of a source. The key type is looked up before anything is read. -/
def convert (colours : Bool) (input : Source → Except ReadFault Bytes) (a : ConvertArguments)
    (s : Session) : Result Outcome × Session :=
  match KeyType.ofTag? a.keyType with
  | none => (.ok (unknownType colours a.keyType), s)
  | some t =>
    if !a.source.isPossible then (.error (.refused .fileName), s)
    else match input a.source with
    | .error fault =>
      let name := orNone a.file
      (.ok (complain colours .unreadable s!"cannot read {name}: {fault.message}"), s)
    | .ok bs =>
      match decodeInput a.input bs with
      | .error text =>
        (.ok (complain colours .failed s!"input is not valid {a.input.name}: {text}"), s)
      | .ok bs =>
        let (k, s) := s.observe (Conversion.decodeWebKey (some bs) t.tag a.kid)
        (conclude colours a.format k, s)

/-- Creates a key in the configured store and prints its web key. -/
def create (colours : Bool) (a : CreateArguments) (s : Session) : Result Outcome × Session :=
  match KeyType.ofTag? a.keyType with
  | none => (.ok (unknownType colours a.keyType), s)
  | some t =>
    let (position, s) := s.run Session.configuredStore
    match position with
    | .error e => (conclude colours a.format (.error e), s)
    | .ok position =>
      let (k, s) := s.run ((Session.store position).createWebKey t.tag)
      (conclude colours a.format k, s)

/-! ## The program -/

/-- Everything that the program is started with. -/
structure Invocation where
  arguments : List String
  input : Source → Except ReadFault Bytes
  environment : Environment := []
  /-- The assignments of a settings file. -/
  assignments : Environment := []
  /-- Whether the standard output is a terminal. -/
  terminal : Bool := false
  correlation : String
  entropy : Entropy

def perform (colours : Bool) (input : Source → Except ReadFault Bytes) (command : Command)
    (s : Session) : Result Outcome × Session :=
  match command with
  | .types a => (.ok (listTypes colours a), s)
  | .convert a => convert colours input a s
  | .create a => create colours a s

/-- Sets the journal up and performs the command. Settings that cannot be read end the program. -/
def runWith (i : Invocation) (a : Arguments) : Result Outcome :=
  let start : Session :=
    { environment := i.environment, assignments := i.assignments, entropy := i.entropy }
  let (setup, s) := start.setUpJournal none (if a.general.verbose then some "DEBUG" else none)
  match setup, a.command with
  | .error e, _ => .error e
  | .ok _, none => .ok { code := .ok, output := .help }
  | .ok _, some command =>
    let colours := i.terminal && !a.general.noColour
    let (outcome, s) := s.within (some i.correlation) (perform colours i.input command)
    outcome.map fun o => { o with entries := s.journal.entries }

/-- Runs the program on an argument list. -/
def run (i : Invocation) : Result Outcome :=
  match Arguments.read i.arguments with
  | .error .help => .ok { code := .ok, output := .help }
  | .error .misuse => .ok { code := .misuse, complaint := some .usage }
  | .ok a => runWith i a

end WebKeys.CommandLine
