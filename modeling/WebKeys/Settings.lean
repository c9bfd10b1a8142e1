import WebKeys.Json.Fields
import WebKeys.Key
import WebKeys.Text.Casing
import WebKeys.Text.Numeral

/-!
# Settings

Five settings, each of them from the first source that names it: the caller, the environment, a
file of assignments, and else a default. Names count in any case. Texts from the environment are
read leniently as truth values and numbers.

* `Settings.ofSources` checks all settings and reports every fault at once.
-/

namespace WebKeys

/-- The settings in force, each with the value it has when no source names it. -/
structure Settings where
  logLevel : String := "INFO"
  logJson : Bool := false
  backend : String := "local"
  /-- The size of new RSA keys in bits. -/
  rsaBits : Nat := 2048
  derForm : DerForm := .legacy
  deriving DecidableEq

/-- The variables of an environment, the newest last. -/
abbrev Environment := List (String × String)

namespace Settings

/-! ## Sources -/

/-- What the names of variables start with. -/
def variablePrefix : String := "KMSJWK_"

/-- The last member whose name is the wanted one in small letters. -/
def lookup (name : String) (ms : Members) : Option Json :=
  (ms.findRev? fun m => Text.lowercase m.1 = name).map (·.2)

/-- The variables that settings are read from, as members without what their names start with. -/
def ofEnvironment (env : Environment) : Members :=
  env.filterMap fun (name, value) =>
    let cs := (Text.lowercase name).toList
    let start := (Text.lowercase variablePrefix).toList
    if start.isPrefixOf cs then some (String.ofList (cs.drop start.length), .string value) else none

/-- The value of a line `NAME=value`, with a comment after it cut off. -/
def assignedValue : List Char → List Char
  | [] => []
  | c :: rest =>
    if Text.isBlank c && (rest.dropWhile Text.isBlank).head? = some '#' then []
    else c :: assignedValue rest

/-- The assignment of a line, if it has one. -/
def assignment? (line : List Char) : Option (String × String) :=
  let cs := Text.trimBlank line
  if cs.head? = some '#' then none
  else
    match cs.span (· ≠ '=') with
    | (name, '=' :: value) =>
      some (String.ofList (Text.trimBlank name),
        String.ofList (Text.trimBlank (assignedValue value)))
    | _ => none

/-- The parts of a text between line breaks. -/
def linesOf : List Char → List (List Char)
  | [] => [[]]
  | c :: rest =>
    if c = '\n' ∨ c = '\r' then [] :: linesOf rest
    else match linesOf rest with
      | line :: more => (c :: line) :: more
      | [] => [[c]]

/-- The assignments of a file, one a line. -/
def ofAssignments (text : List Char) : Environment := (linesOf text).filterMap assignment?

/-! ## Values -/

/-- A setting that is text. -/
def asText : Json → Except FaultKind String
  | .string s => .ok s
  | _ => .error .notText

def levelNames : List String := ["DEBUG", "INFO", "WARNING", "ERROR", "CRITICAL"]

/-- A level by its name in any case. -/
def asLevel (v : Json) : Except FaultKind String := do
  match Text.capitals? (← asText v) with
  | some s => if levelNames.contains s then .ok s else .error .badValue
  | none => .error .badValue

/-- The truth value of a word, in letters of any size. -/
def boolOfText (s : String) : Option Bool :=
  let s := Text.lowercase s
  if ["1", "true", "t", "yes", "y", "on"].contains s then some true
  else if ["0", "false", "f", "no", "n", "off"].contains s then some false
  else none

/-- The whole number that a fraction is equal to. -/
def wholeOf (x : Decimal) : Except FaultKind Int :=
  match x with
  | .finite negative digits exponent =>
    let (num, den) := Decimal.magnitude digits exponent
    if num % den = 0 then .ok (if negative then -(num / den : Nat) else (num / den : Nat))
    else .error .fractional
  | _ => .error .notFinite

def boolOfInt (n : Int) : Except FaultKind Bool :=
  if n = 1 then .ok true else if n = 0 then .ok false else .error .notBool

/-- Reads a truth value as leniently as settings are read. -/
def asBool : Json → Except FaultKind Bool
  | .bool b => .ok b
  | .int n => boolOfInt n
  | .float x =>
    match wholeOf x with
    | .ok n => boolOfInt n
    | .error _ => .error .wrongTypeForBool
  | .string s =>
    match boolOfText s with
    | some b => .ok b
    | none => .error .notBool
  | _ => .error .wrongTypeForBool

/-- Drops a fraction that consists of zeros. -/
def withoutZeroFraction (cs : List Char) : List Char :=
  match cs.span (· ≠ '.') with
  | (whole, '.' :: fraction) => if fraction.all (· = '0') then whole else cs
  | _ => cs

/-- A whole number in decimal digits, with a sign, and single underscores between digits. -/
def integerOfText (s : String) : Except FaultKind Int :=
  let cs := withoutZeroFraction (Text.trimBlank s.toList)
  let (negative, cs) :=
    match cs with
    | '-' :: rest => (true, rest)
    | '+' :: rest => (false, rest)
    | cs => (false, cs)
  if cs.any (128 ≤ ·.toNat) then .error .notInteger
  else match Text.digits? cs with
    | none => .error .notInteger
    | some ds =>
      if Text.longestNumeral < (ds.dropWhile (· = 0)).length then .error .tooLong
      else
        let n : Int := Text.ofDigits ds
        .ok (if negative then -n else n)

/-- Reads a whole number as leniently as settings are read. -/
def asInteger : Json → Except FaultKind Int
  | .int n => .ok n
  | .bool b => .ok (if b then 1 else 0)
  | .float x => wholeOf x
  | .string s => integerOfText s
  | _ => .error .wrongTypeForInteger

def smallestRsaBits : Nat := 2048

def asRsaBits (v : Json) : Except FaultKind Nat := do
  let n ← asInteger v
  if n < smallestRsaBits then .error .badValue else .ok n.toNat

/-- A form by its exact name. -/
def asDerForm : Json → Except FaultKind DerForm
  | .string "legacy" => .ok .legacy
  | .string "registered" => .ok .registered
  | _ => .error .notListed

/-! ## All settings -/

/-- The setting of a name, or its default; a fault goes under the name. -/
def field {α : Type} (sources : List Members) (name : String) (default : α)
    (read : Json → Except FaultKind α) : Except FieldFault α :=
  match sources.findSome? (lookup name) with
  | none => .ok default
  | some v => (read v).mapError (⟨name, ·⟩)

def faultOf {α : Type} : Except FieldFault α → List FieldFault
  | .ok _ => []
  | .error f => [f]

/-- Reads all settings from sources, the most binding one first. -/
def ofSources (sources : List Members) : Except (List FieldFault) Settings :=
  let logLevel := field sources "log_level" "INFO" asLevel
  let logJson := field sources "log_json" false asBool
  let backend := field sources "kms_backend" "local" asText
  let rsaBits := field sources "rsa_key_size" 2048 asRsaBits
  let derForm := field sources "secp256k1_der_oid" .legacy asDerForm
  match logLevel, logJson, backend, rsaBits, derForm with
  | .ok logLevel, .ok logJson, .ok backend, .ok rsaBits, .ok derForm =>
    .ok ⟨logLevel, logJson, backend, rsaBits, derForm⟩
  | _, _, _, _, _ =>
    .error (faultOf logLevel ++ faultOf logJson ++ faultOf backend ++ faultOf rsaBits
      ++ faultOf derForm)

end Settings

end WebKeys
