import WebKeys.CommandLine.Run

/-!
# Help

What is printed on request, and after a misuse.
-/

namespace WebKeys.CommandLine

def usageText : String :=
  "usage: kmsjwk [-h] [--no-color] [--verbose] [types | convert | create] ..."

def helpText : String := String.intercalate "\n"
  [usageText,
   "",
   "Converts the public key bytes of a key store to JSON Web Keys.",
   "",
   "commands:",
   "  types [--format text|json]",
   "      lists the key types",
   "  convert KEY_TYPE [FILE] [--input-format raw|hex|base64] [--format json|yaml] [--kid ID]",
   "      converts the bytes of a public key",
   "  create KEY_TYPE [--format json|yaml]",
   "      creates a key and prints its public part",
   "",
   "options:",
   "  -h, --help     shows this help",
   "  --no-color     prints without colours",
   "  -v, --verbose  logs the conversions"]

/-- The lines for the standard output. -/
def Output.lines : Output → List String
  | nothing => []
  | help => [helpText]
  | text s => [s]

def Complaint.line : Complaint → String
  | usage => usageText
  | error s => s

/-- The lines for the standard error. -/
def Outcome.errorLines (now : Log.Moment) (o : Outcome) : List String :=
  o.entries.map (·.line now) ++ (o.complaint.map (·.line)).toList

end WebKeys.CommandLine
