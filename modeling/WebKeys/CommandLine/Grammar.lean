import WebKeys.Text.Numeral

/-!
# Arguments of a command

What a command may be called with: options, which start with a dash and come in any order, and
positional arguments. Reading the arguments fills in a record of the caller's choice.

* An option that takes a value has it after an equals sign or as the next argument. A long option
  may be cut short as long as only one fits, and single letters may share a dash.
* After `--` every argument is positional.
* A run of positional arguments is dealt out at once. An optional one that gets nothing there gets
  nothing later.
* `Grammar.read` reads all arguments, `Grammar.readLeading` those in front of a positional one.
-/

namespace WebKeys.CommandLine

/-- Why reading stops without a result. -/
inductive Stop
  | help
  | misuse
  deriving DecidableEq

/-- What an option does to the record. -/
inductive Effect (α : Type)
  | help
  | mark (f : α → α)
  /-- Takes a value, unless it is none of those allowed. -/
  | value (f : String → α → Option α)

/-- An option under all its names, long and short. -/
structure Opt (α : Type) where
  names : List String
  effect : Effect α

/-- An argument without a name, in its place among the others. -/
structure Positional (α : Type) where
  required : Bool
  set : String → α → α

/-- Of the positional arguments, the required ones come first. -/
structure Grammar (α : Type) where
  options : List (Opt α)
  positionals : List (Positional α) := []

/-! ## Kinds of arguments -/

/-- What is joined to the name of an option in one argument. -/
inductive Joined
  | nothing
  | afterEquals (text : List Char)
  | attached (text : List Char)

/-- What an argument is taken for before any value is read. -/
inductive Kind (α : Type)
  | separator
  | plain
  | option (effect : Effect α) (joined : Joined)
  | unknownOption

/-- An argument as it was given, and what it is taken for. -/
structure Token (α : Type) where
  text : String
  kind : Kind α

def Kind.isOption {α : Type} : Kind α → Bool
  | option .. | unknownOption => true
  | separator | plain => false

namespace Grammar

variable {α : Type}

/-- All names of options with their effects. -/
def names (g : Grammar α) : List (List Char × Effect α) :=
  g.options.flatMap fun o => o.names.map fun n => (n.toList, o.effect)

def find? (g : Grammar α) (name : List Char) : Option (Effect α) :=
  (g.names.find? (·.1 = name)).map (·.2)

/-- The part before the first equals sign, and the part after it if there is one. -/
def parts (cs : List Char) : List Char × Option (List Char) :=
  match cs.span (· ≠ '=') with
  | (name, _ :: value) => (name, some value)
  | (name, []) => (name, none)

def joinedOf : Option (List Char) → Joined
  | some value => .afterEquals value
  | none => .nothing

/-- The options that an argument may stand for although it is not the name of one. -/
def candidates (g : Grammar α) (cs : List Char) : List (Kind α) :=
  match cs with
  | '-' :: '-' :: _ =>
    let (name, value) := parts cs
    (g.names.filter fun n => name.isPrefixOf n.1).map fun n => .option n.2 (joinedOf value)
  | _ =>
    g.names.filterMap fun n =>
      if n.1 = cs.take 2 then some (.option n.2 (.attached (cs.drop 2)))
      else if cs.isPrefixOf n.1 then some (.option n.2 .nothing)
      else none

/-- Digits, or a fraction in digits; a line break at the end does not count. -/
def isMagnitude (cs : List Char) : Bool :=
  let cs := if cs.getLast? = some '\n' then cs.dropLast else cs
  let isDigit := fun c => (Text.digit? c).isSome
  match cs.span isDigit with
  | (_ :: _, []) => true
  | (_, '.' :: fraction) => !fraction.isEmpty && fraction.all isDigit
  | _ => false

/-- What an argument is taken for: names may be cut short as long as one option is meant. -/
def kindOf (g : Grammar α) (cs : List Char) : Except Stop (Kind α) :=
  match cs with
  | '-' :: _ :: _ =>
    let (name, value) := parts cs
    match g.find? cs, value.bind fun _ => g.find? name with
    | some e, _ => .ok (.option e .nothing)
    | none, some e => .ok (.option e (joinedOf value))
    | none, none =>
      match g.candidates cs with
      | _ :: _ :: _ => .error .misuse
      | [k] => .ok k
      | [] =>
        if isMagnitude (cs.drop 1) || cs.contains ' ' then .ok .plain else .ok .unknownOption
  | _ => .ok .plain

/-- The kinds of all arguments. -/
def tokens (g : Grammar α) : List String → Except Stop (List (Token α))
  | [] => .ok []
  | arg :: rest =>
    if arg = "--" then .ok (⟨arg, .separator⟩ :: rest.map (⟨·, .plain⟩))
    else do
      let kind ← g.kindOf arg.toList
      return ⟨arg, kind⟩ :: (← g.tokens rest)

/-! ## Options -/

/-- What the options of one argument do, in their order. -/
structure Effects (α : Type) where
  done : List (Effect α × Option String) := []
  /-- The effect that still wants the next argument for its value. -/
  open? : Option (Effect α) := none
  /-- Whether letters are left that are no option. -/
  leftOver : Bool := false

def Effects.before (e : Effect α) (es : Effects α) : Effects α :=
  { es with done := (e, none) :: es.done }

def textOf (cs : List Char) : Option String := some (String.ofList cs)

/-- An option that stands alone: one that takes a value waits for the next argument. -/
def effectsApart : Effect α → Effects α
  | .value f => { open? := some (.value f) }
  | e => { done := [(e, none)] }

/-- Only an option that takes a value can be given one. -/
def effectsAfterEquals (cs : List Char) : Effect α → Except Stop (Effects α)
  | .value f => .ok { done := [(.value f, textOf cs)] }
  | _ => .error .misuse

/-- The letters attached to an option are its value, or more options. -/
def effectsAttached (g : Grammar α) (e : Effect α) : List Char → Except Stop (Effects α)
  | [] => .error .misuse
  | c :: rest =>
    match e with
    | .value f => .ok { done := [(.value f, textOf (c :: rest))] }
    | e =>
      if c = '-' then .error .misuse
      else match g.find? ['-', c], rest with
        | none, _ => .ok { done := [(e, none)], leftOver := true }
        | some next, [] => .ok ((effectsApart next).before e)
        | some next, '=' :: value => (effectsAfterEquals value next).map (·.before e)
        | some next, rest => (effectsAttached g next rest).map (·.before e)

def effectsOf (g : Grammar α) (e : Effect α) : Joined → Except Stop (Effects α)
  | .nothing => .ok (effectsApart e)
  | .afterEquals cs => effectsAfterEquals cs e
  | .attached cs => g.effectsAttached e cs

/-- Does what an option does to the record; a value that it refuses is a misuse. -/
def perform (a : α) : Effect α × Option String → Except Stop α
  | (.help, _) => .error .help
  | (.mark f, _) => .ok (f a)
  | (.value f, some text) =>
    match f text a with
    | some a => .ok a
    | none => .error .misuse
  | (.value _, none) => .error .misuse

/-- The state of reading: the record, what has no place in it, and the arguments ahead. -/
structure Progress (α : Type) where
  record : α
  leftOver : Bool := false
  ahead : List (Token α)

/-- Reads an option, together with the argument behind it if one is still asked for. -/
def readOption (g : Grammar α) (e : Effect α) (joined : Joined) (p : Progress α) :
    Except Stop (Progress α) := do
  let es ← g.effectsOf e joined
  let (done, ahead) ←
    match es.open?, p.ahead with
    | none, ahead => pure (es.done, ahead)
    | some e, ⟨text, .plain⟩ :: ahead => pure (es.done ++ [(e, some text)], ahead)
    | some _, _ => throw .misuse
  return ⟨← done.foldlM perform p.record, p.leftOver || es.leftOver, ahead⟩

/-! ## Positional arguments -/

def dropSeparators (ts : List (Token α)) : List (Token α) :=
  ts.dropWhile fun t => match t.kind with
    | .separator => true
    | _ => false

/-- Deals a run of arguments out to the positional ones; those that got their turn are left out of
the answer. A `--` goes with its neighbour, and is no value by itself. -/
def deal : List (Positional α) → Progress α → List (Positional α) × Progress α
  | [], p => ([], p)
  | positional :: rest, p =>
    match dropSeparators p.ahead with
    | ⟨text, .plain⟩ :: ahead =>
      let alone := (dropSeparators p.ahead).length = p.ahead.length
      let record := if text = "--" ∧ alone then p.record else positional.set text p.record
      deal rest { p with record := record, ahead := dropSeparators ahead }
    | ahead =>
      if positional.required then (positional :: rest, p)
      else deal rest { p with ahead := ahead }

/-! ## Reading -/

/-- Reads all arguments; every turn takes one at least, so `fuel` is their number and one more. -/
def readFrom (g : Grammar α) (fuel : Nat) (ps : List (Positional α)) (p : Progress α) :
    Except Stop (Progress α) :=
  match fuel with
  | 0 => .error .misuse
  | fuel + 1 =>
    match p.ahead with
    | ⟨_, .option e joined⟩ :: ahead => do
      g.readFrom fuel ps (← g.readOption e joined { p with ahead := ahead })
    | ⟨_, .unknownOption⟩ :: ahead =>
      readFrom g fuel ps { p with leftOver := true, ahead := ahead }
    | ahead =>
      let (ps, dealt) := deal ps p
      if ahead.any (·.kind.isOption) then
        if dealt.ahead.length < ahead.length then readFrom g fuel ps dealt
        else
          readFrom g fuel ps
            { dealt with leftOver := true, ahead := ahead.dropWhile (!·.kind.isOption) }
      else if ps.any (·.required) then .error .misuse
      else .ok { dealt with leftOver := dealt.leftOver || !dealt.ahead.isEmpty, ahead := [] }

/-- Reads all arguments into a record, and tells whether some have no place in it. -/
def read (g : Grammar α) (start : α) (args : List String) : Except Stop (α × Bool) := do
  let p ← g.readFrom (args.length + 1) g.positionals { record := start, ahead := ← g.tokens args }
  return (p.record, p.leftOver)

/-- Reads options up to the first positional argument. -/
def readLeadingFrom (g : Grammar α) (fuel : Nat) (p : Progress α) : Except Stop (Progress α) :=
  match fuel, p.ahead with
  | fuel + 1, ⟨_, .option e joined⟩ :: ahead => do
    readLeadingFrom g fuel (← g.readOption e joined { p with ahead := ahead })
  | fuel + 1, ⟨_, .unknownOption⟩ :: ahead =>
    readLeadingFrom g fuel { p with leftOver := true, ahead := ahead }
  | _, ⟨_, .separator⟩ :: _ => .error .misuse
  | _, _ => .ok p

/-- Reads the options in front of the first positional argument. The answer holds the record,
whether something has no place in it, and the arguments from there on. -/
def readLeading (g : Grammar α) (start : α) (args : List String) :
    Except Stop (α × Bool × List String) := do
  let p ← g.readLeadingFrom (args.length + 1) { record := start, ahead := ← g.tokens args }
  return (p.record, p.leftOver, p.ahead.map (·.text))

end Grammar

end WebKeys.CommandLine
