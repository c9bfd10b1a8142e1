import Std.Time.DateTime.Timestamp
import WebKeys.CommandLine.Help
import WebKeys.Log.Clock

/-!
# The program

Gathers what a run depends on, runs, and prints. Only the variables and the file that the run can
ask for are read.
-/

open WebKeys

namespace WebKeys.Main

/-- The names of the variables that are read. -/
def variableNames : List String :=
  ["LOG_LEVEL", "LOG_JSON", "KMS_BACKEND", "RSA_KEY_SIZE", "SECP256K1_DER_OID"].map
    (Settings.variablePrefix ++ ·)

def environment : IO Environment :=
  variableNames.filterMapM fun name => do
    return (← IO.getEnv name).map (name, ·)

/-- The assignments of the settings file, if there is one. -/
def assignments : IO Environment := do
  try
    let bs ← IO.FS.readBinFile ".env"
    return Settings.ofAssignments ((Utf8.decode? bs.toList).getD [])
  catch _ => return []

/-- The system's number for a path through something that is no directory. It comes with either
sign. -/
def notDirectoryCode : UInt32 := 20

def faultOf : IO.Error → CommandLine.ReadFault
  | .noFileOrDirectory .. => .missing
  | .inappropriateType _ code _ =>
    if [code, -code].contains notDirectoryCode then .notDirectory else .directory
  | .permissionDenied .. => .other "Permission denied"
  | e => .other (toString e)

partial def readAll (stream : IO.FS.Stream) (before : List ByteArray) : IO Bytes := do
  let part ← stream.read 65536
  if part.isEmpty then return (before.reverse.map ByteArray.toList).flatten
  readAll stream (part :: before)

def readSource : CommandLine.Source → IO (Except CommandLine.ReadFault Bytes)
  | .standard => do return .ok (← readAll (← IO.getStdin) [])
  | .file name => do
    try
      return .ok (← IO.FS.readBinFile name).toList
    catch e => return .error (faultOf e)

/-- The input that the arguments ask for. -/
def inputFor (args : List String) :
    IO (CommandLine.Source → Except CommandLine.ReadFault Bytes) := do
  match CommandLine.Arguments.read args with
  | .ok ⟨_, some (.convert a)⟩ =>
    if (KeyType.ofTag? a.keyType).isSome then
      let content ← readSource a.source
      return fun _ => content
    else return fun _ => .ok []
  | _ => return fun _ => .ok []

def micros : IO Nat := do
  let now ← Std.Time.Timestamp.now
  return now.toNanosecondsSinceUnixEpoch.val.toNat / 1000

/-- The time since an instant, in hundredths of milliseconds. -/
def elapsedSince (start : Nat) : IO Decimal := do
  return .finite false (((← IO.monoNanosNow) - start) / 10000) (-2)

end WebKeys.Main

open WebKeys.Main in
/-- The program: reads what it needs from outside, and writes what a run leaves behind. -/
def main (args : List String) : IO UInt32 := do
  let start ← IO.monoNanosNow
  let seed ← IO.getRandomBytes 32
  let (correlation, entropy) := ({ seed := seed.toList } : Entropy).uuid
  let outcome := CommandLine.run {
    arguments := args
    input := ← inputFor args
    environment := ← environment
    assignments := ← assignments
    terminal := ← (← IO.getStdout).isTty
    correlation := correlation
    entropy := entropy }
  match outcome with
  | .error e =>
    IO.eprintln e.message
    return 1
  | .ok o =>
    for line in o.output.lines do IO.println line
    let now := Log.Moment.ofMicros (← micros) (← elapsedSince start)
    for line in o.errorLines now do IO.eprintln line
    return UInt32.ofNat o.code.number
