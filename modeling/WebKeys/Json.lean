import WebKeys.Json.Decimal

/-!
# JSON values

Members of an object keep their order. Reading may leave a name in it twice; the last one counts.
-/

namespace WebKeys

/-- A JSON value. The members of an object keep their order, and no name need be there only once. -/
inductive Json
  | null
  | bool (b : Bool)
  | int (n : Int)
  | float (x : Decimal)
  | string (s : String)
  | array (items : List Json)
  | object (members : List (String × Json))
  deriving Inhabited

/-- The members of an object in their order. -/
abbrev Members := List (String × Json)

namespace Members

/-- The value under a name; of several, the last. -/
def get? (ms : Members) (name : String) : Option Json :=
  match ms with
  | [] => none
  | (n, v) :: rest => (get? rest name).or (if n = name then some v else none)

/-- Replaces a value in its place, or adds it at the end. -/
def put (ms : Members) (name : String) (v : Json) : Members :=
  match ms with
  | [] => [(name, v)]
  | (n, w) :: rest => if n = name then (n, v) :: rest else (n, w) :: put rest name v

/-- Adds the second list to the first, name by name. -/
def update (ms added : Members) : Members := added.foldl (fun ms m => put ms m.1 m.2) ms

end Members

namespace Json

/-- Whether a value counts as true: neither nothing, nor zero, nor empty. -/
def isTruthy : Json → Bool
  | null => false
  | bool b => b
  | int n => n ≠ 0
  | float (.finite _ digits exponent) => (Binary.ofDecimal digits exponent).mantissa ≠ 0
  | float _ => true
  | string s => s ≠ ""
  | array items => !items.isEmpty
  | object members => !members.isEmpty

def ofOption : Option String → Json
  | some s => .string s
  | none => .null

end Json

end WebKeys
