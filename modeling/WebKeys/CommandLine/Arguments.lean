import WebKeys.CommandLine.Grammar

/-!
# The commands

The program has three commands, each with arguments of its own, and two options in front of the
command. `Arguments.read` makes sense of a whole argument list.
-/

namespace WebKeys.CommandLine

/-- How a web key is printed. -/
inductive Format
  | json
  | yaml
  deriving DecidableEq

/-- How the list of key types is printed. -/
inductive ListFormat
  | text
  | json
  deriving DecidableEq

/-- How the bytes of a key are written in the input. -/
inductive InputFormat
  | raw
  | hex
  | base64
  deriving DecidableEq

def Format.ofName? : String → Option Format
  | "json" => some json
  | "yaml" => some yaml
  | _ => none

def ListFormat.ofName? : String → Option ListFormat
  | "text" => some text
  | "json" => some json
  | _ => none

def InputFormat.name : InputFormat → String
  | raw => "raw"
  | hex => "hex"
  | base64 => "base64"

def InputFormat.ofName? : String → Option InputFormat
  | "raw" => some raw
  | "hex" => some hex
  | "base64" => some base64
  | _ => none

/-- What the listing of key types is asked for with. -/
structure TypesArguments where
  format : ListFormat := .text

/-- What a conversion is asked for with; without a file, standard input is read. -/
structure ConvertArguments where
  keyType : String := ""
  file : Option String := none
  input : InputFormat := .raw
  format : Format := .json
  kid : Option String := none

/-- What a new key is asked for with. -/
structure CreateArguments where
  keyType : String := ""
  format : Format := .json

/-- The three commands, each with its arguments. -/
inductive Command
  | types (a : TypesArguments)
  | convert (a : ConvertArguments)
  | create (a : CreateArguments)

/-- What stands in front of the command. -/
structure GeneralArguments where
  noColour : Bool := false
  verbose : Bool := false

/-- All that an argument list says; it may name no command. -/
structure Arguments where
  general : GeneralArguments
  command : Option Command

/-! ## Grammars -/

def helpOption {α : Type} : Opt α := ⟨["-h", "--help"], .help⟩

def generalGrammar : Grammar GeneralArguments where
  options :=
    [helpOption,
     ⟨["--no-color"], .mark fun a => { a with noColour := true }⟩,
     ⟨["--verbose", "-v"], .mark fun a => { a with verbose := true }⟩]

def typesGrammar : Grammar TypesArguments where
  options :=
    [helpOption,
     ⟨["--format"], .value fun s a => (ListFormat.ofName? s).map fun f => { a with format := f }⟩]

/-- A conversion takes the key type first, and then perhaps a file. -/
def convertGrammar : Grammar ConvertArguments where
  options :=
    [helpOption,
     ⟨["--input-format"],
      .value fun s a => (InputFormat.ofName? s).map fun f => { a with input := f }⟩,
     ⟨["--format"], .value fun s a => (Format.ofName? s).map fun f => { a with format := f }⟩,
     ⟨["--kid"], .value fun s a => some { a with kid := some s }⟩]
  positionals :=
    [⟨true, fun s a => { a with keyType := s }⟩, ⟨false, fun s a => { a with file := some s }⟩]

def createGrammar : Grammar CreateArguments where
  options :=
    [helpOption,
     ⟨["--format"], .value fun s a => (Format.ofName? s).map fun f => { a with format := f }⟩]
  positionals := [⟨true, fun s a => { a with keyType := s }⟩]

/-! ## Reading -/

/-- A command with its arguments, and whether some of them have no place. -/
def Command.read (name : String) (args : List String) : Except Stop (Command × Bool) :=
  match name with
  | "types" => (typesGrammar.read {} args).map fun (a, leftOver) => (.types a, leftOver)
  | "convert" => (convertGrammar.read {} args).map fun (a, leftOver) => (.convert a, leftOver)
  | "create" => (createGrammar.read {} args).map fun (a, leftOver) => (.create a, leftOver)
  | _ => .error .misuse

/-- Reads a whole argument list. Arguments without a place are a misuse, but one that comes to light
only after everything else has been read. -/
def Arguments.read (args : List String) : Except Stop Arguments := do
  let (general, leftOver, rest) ← generalGrammar.readLeading {} args
  match rest with
  | [] => if leftOver then throw .misuse else return ⟨general, none⟩
  | name :: rest =>
    let (command, more) ← Command.read name rest
    if leftOver || more then throw .misuse else return ⟨general, some command⟩

end WebKeys.CommandLine
