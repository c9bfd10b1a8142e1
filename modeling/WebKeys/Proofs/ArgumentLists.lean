import WebKeys.CommandLine.Arguments
import WebKeys.Proofs.Outcome

/-!
# Conversions that can be asked for

Every conversion has an argument list that asks for it (`commandLine`), whatever its key type, its
file and its key identifier are: the options are written with an equals sign, and what has no name
stands behind `--`, where a dash at the start means nothing.

`Grammar.Reads` is what reading does from a record on. Each option in front of arguments that are
read takes one step more (`Grammar.Reads.option`).
-/

namespace WebKeys

open Outcome

namespace CommandLine

/-! ## Reading step by step -/

namespace Grammar

variable {α : Type} {g : Grammar α}

theorem tokens_option {arg : String} {kind : Kind α} {rest : List String} {ts : List (Token α)}
    (hne : arg ≠ "--") (hkind : g.kindOf arg.toList = .ok kind) (hrest : g.tokens rest = .ok ts) :
    g.tokens (arg :: rest) = .ok (⟨arg, kind⟩ :: ts) := by
  rw [tokens, if_neg hne, hkind, ok_bind, hrest]
  rfl

/-- Sorting the arguments into options and values keeps every text in its place. -/
theorem texts_of_tokens {args : List String} {ts : List (Token α)} (h : g.tokens args = .ok ts) :
    ts.map (·.text) = args := by
  induction args generalizing ts with
  | nil =>
    cases h
    rfl
  | cons arg rest ih =>
    rw [tokens] at h
    split at h
    · cases h
      simp [Function.comp_def]
    · obtain ⟨kind, -, h⟩ := bind_eq_ok.mp h
      obtain ⟨ts', hts, h⟩ := bind_eq_ok.mp h
      cases h
      rw [List.map_cons, ih hts]

/-- Reading the arguments, all of which have a place, takes one record to the other. -/
def Reads (g : Grammar α) (record : α) (args : List String) (record' : α) : Prop :=
  ∃ ts, g.tokens args = .ok ts ∧
    g.readFrom (args.length + 1) g.positionals ⟨record, false, ts⟩ = .ok ⟨record', false, []⟩

theorem Reads.read {start record : α} {args : List String} (h : g.Reads start args record) :
    g.read start args = .ok (record, false) := by
  obtain ⟨ts, htokens, hread⟩ := h
  rw [Grammar.read, htokens, ok_bind, hread]
  rfl

theorem readOption_afterEquals {record record' : α} {leftOver : Bool} {ahead : List (Token α)}
    {f : String → α → Option α} {value : String} (hf : f value record = some record') :
    g.readOption (.value f) (.afterEquals value.toList) ⟨record, leftOver, ahead⟩ =
      .ok ⟨record', leftOver, ahead⟩ := by
  have hperform : perform record (.value f, textOf value.toList) = .ok record' := by
    rw [textOf, String.ofList_toList, perform, hf]
  simp only [readOption, effectsOf, effectsAfterEquals, ok_bind, pure, Except.pure,
    List.foldlM_cons, List.foldlM_nil, hperform, Bool.or_false]

/-- An option with its value after an equals sign sets what it is for. -/
theorem Reads.option {record record₁ record' : α} {arg value : String} {rest : List String}
    {f : String → α → Option α} (h : g.Reads record₁ rest record') (hne : arg ≠ "--")
    (hkind : g.kindOf arg.toList = .ok (.option (.value f) (.afterEquals value.toList)))
    (hf : f value record = some record₁) : g.Reads record (arg :: rest) record' := by
  obtain ⟨ts, htokens, hread⟩ := h
  refine ⟨_, tokens_option hne hkind htokens, ?_⟩
  rw [readFrom]
  dsimp only
  rw [readOption_afterEquals hf, ok_bind]
  exact hread

end Grammar

open Grammar

/-- The options of a conversion mean nothing in front of the command, but are no misuse there. -/
theorem exists_kindOf_general {name : String}
    (h : name ∈ ["--input-format=", "--format=", "--kid="]) (s : String) :
    ∃ kind, generalGrammar.kindOf (name ++ s).toList = .ok kind := by
  have hkind : generalGrammar.kindOf (name ++ s).toList =
      if isMagnitude ((name ++ s).toList.drop 1) || (name ++ s).toList.contains ' ' then .ok .plain
      else .ok .unknownOption := by
    rw [String.toList_append]
    simp only [List.mem_cons, List.not_mem_nil, or_false] at h
    rcases h with rfl | rfl | rfl <;> rfl
  rw [hkind]
  split <;> exact ⟨_, rfl⟩

theorem append_ne_separator {name : String} (h : 2 < name.length) (s : String) :
    name ++ s ≠ "--" := by
  intro heq
  have hlen := congrArg String.length heq
  rw [String.length_append] at hlen
  have htwo : "--".length = 2 := rfl
  omega

/-! ## Conversions written out -/

def Format.name : Format → String
  | json => "json"
  | yaml => "yaml"

/-- The arguments of a conversion, with every option written out. The key type comes after `--`, so
that it may be any text. -/
def ConvertArguments.written (a : ConvertArguments) : List String :=
  ["--input-format=" ++ a.input.name, "--format=" ++ a.format.name]
    ++ (a.kid.map ("--kid=" ++ ·)).toList ++ "--" :: a.keyType :: a.file.toList

/-- The arguments that ask for a conversion. -/
def commandLine (g : GeneralArguments) (a : ConvertArguments) : List String :=
  (if g.noColour then ["--no-color"] else []) ++ (if g.verbose then ["--verbose"] else [])
    ++ "convert" :: a.written

theorem exists_tokens_general (a : ConvertArguments) :
    ∃ ts, generalGrammar.tokens a.written = .ok ts := by
  have hoption {name : String} (hname : name ∈ ["--input-format=", "--format=", "--kid="])
      (s : String) {rest : List String} (h : ∃ ts, generalGrammar.tokens rest = .ok ts) :
      ∃ ts, generalGrammar.tokens ((name ++ s) :: rest) = .ok ts := by
    obtain ⟨ts, hts⟩ := h
    obtain ⟨kind, hkind⟩ := exists_kindOf_general hname s
    have hlength : 2 < name.length := by
      simp only [List.mem_cons, List.not_mem_nil, or_false] at hname
      rcases hname with rfl | rfl | rfl <;> decide
    exact ⟨_, tokens_option (append_ne_separator hlength s) hkind hts⟩
  have hplain : ∃ ts, generalGrammar.tokens ("--" :: a.keyType :: a.file.toList) = .ok ts :=
    ⟨_, rfl⟩
  unfold ConvertArguments.written
  cases a.kid with
  | none => exact hoption (by simp) _ (hoption (by simp) _ hplain)
  | some kid => exact hoption (by simp) _ (hoption (by simp) _ (hoption (by simp) kid hplain))

/-- Reading the general options of a line stops at the name of the command. -/
theorem readLeading_commandLine (g : GeneralArguments) (a : ConvertArguments) :
    generalGrammar.readLeading {} (commandLine g a) = .ok (g, false, "convert" :: a.written) := by
  obtain ⟨ts, hts⟩ := exists_tokens_general a
  have hconvert : generalGrammar.tokens ("convert" :: a.written) =
      .ok (⟨"convert", .plain⟩ :: ts) := tokens_option (by decide) rfl hts
  have htexts := texts_of_tokens hts
  -- Whichever marks there are, `convert` is the first positional argument, where reading stops.
  have hflags : ∃ flags : List (Token GeneralArguments),
      generalGrammar.tokens (commandLine g a) = .ok (flags ++ ⟨"convert", .plain⟩ :: ts) ∧
      generalGrammar.readLeadingFrom ((commandLine g a).length + 1)
        ⟨{}, false, flags ++ ⟨"convert", .plain⟩ :: ts⟩ =
          .ok ⟨g, false, ⟨"convert", .plain⟩ :: ts⟩ := by
    obtain ⟨noColour, verbose⟩ := g
    cases noColour <;> cases verbose
    · exact ⟨[], hconvert, rfl⟩
    · exact ⟨[_], tokens_option (by decide) rfl hconvert, rfl⟩
    · exact ⟨[_], tokens_option (by decide) rfl hconvert, rfl⟩
    · exact ⟨[_, _], tokens_option (by decide) rfl (tokens_option (by decide) rfl hconvert), rfl⟩
  obtain ⟨flags, htokens, hread⟩ := hflags
  rw [readLeading, htokens, ok_bind, hread, ← htexts]
  rfl

section Options

variable {record a : ConvertArguments} {rest : List String}

theorem reads_inputFormat {f : InputFormat}
    (h : convertGrammar.Reads { record with input := f } rest a) :
    convertGrammar.Reads record (("--input-format=" ++ f.name) :: rest) a := by
  have hkind : convertGrammar.kindOf ("--input-format=" ++ f.name).toList = .ok (.option
      (.value fun s a => (InputFormat.ofName? s).map fun f => { a with input := f })
      (.afterEquals f.name.toList)) := by
    rw [String.toList_append]
    rfl
  exact h.option (append_ne_separator (by decide) _) hkind (by cases f <;> rfl)

theorem reads_format {f : Format} (h : convertGrammar.Reads { record with format := f } rest a) :
    convertGrammar.Reads record (("--format=" ++ f.name) :: rest) a := by
  have hkind : convertGrammar.kindOf ("--format=" ++ f.name).toList = .ok (.option
      (.value fun s a => (Format.ofName? s).map fun f => { a with format := f })
      (.afterEquals f.name.toList)) := by
    rw [String.toList_append]
    rfl
  exact h.option (append_ne_separator (by decide) _) hkind (by cases f <;> rfl)

theorem reads_kid {kid : String} (h : convertGrammar.Reads { record with kid := some kid } rest a) :
    convertGrammar.Reads record (("--kid=" ++ kid) :: rest) a := by
  have hkind : convertGrammar.kindOf ("--kid=" ++ kid).toList = .ok (.option
      (.value fun s a => some { a with kid := some s }) (.afterEquals kid.toList)) := by
    rw [String.toList_append]
    rfl
  exact h.option (append_ne_separator (by decide) _) hkind rfl

end Options

/-- What stands behind the options is the key type and the file. -/
theorem deal_positionals (a : ConvertArguments) (hfile : a.file ≠ some "--") (keyType : String)
    (input : InputFormat) (format : Format) (kid : Option String) :
    deal convertGrammar.positionals ⟨⟨keyType, none, input, format, kid⟩, false,
        ⟨"--", .separator⟩ :: ⟨a.keyType, .plain⟩ :: a.file.toList.map (⟨·, .plain⟩)⟩ =
      ([], ⟨⟨a.keyType, a.file, input, format, kid⟩, false, []⟩) := by
  cases hname : a.file with
  | none => simp [convertGrammar, deal, dropSeparators]
  | some name =>
    have hne : name ≠ "--" := by
      rintro rfl
      exact hfile hname
    simp [convertGrammar, deal, dropSeparators, hne]

theorem reads_positionals (a : ConvertArguments) (hfile : a.file ≠ some "--") (keyType : String)
    (input : InputFormat) (format : Format) (kid : Option String) :
    convertGrammar.Reads ⟨keyType, none, input, format, kid⟩ ("--" :: a.keyType :: a.file.toList)
      ⟨a.keyType, a.file, input, format, kid⟩ := by
  refine ⟨⟨"--", .separator⟩ :: ⟨a.keyType, .plain⟩ :: a.file.toList.map (⟨·, .plain⟩), rfl, ?_⟩
  have hplain : (⟨"--", .separator⟩ :: ⟨a.keyType, .plain⟩ ::
      a.file.toList.map fun s => (⟨s, .plain⟩ : Token ConvertArguments)).any
        (·.kind.isOption) = false := by
    cases a.file <;> rfl
  rw [readFrom, deal_positionals a hfile]
  dsimp only
  rw [hplain]
  rfl

theorem read_written (a : ConvertArguments) (hfile : a.file ≠ some "--") :
    convertGrammar.read {} a.written = .ok (a, false) := by
  refine Reads.read ?_
  unfold ConvertArguments.written
  obtain ⟨keyType, file, input, format, kid⟩ := a
  cases kid with
  | none => exact reads_inputFormat (reads_format (reads_positionals _ hfile _ _ _ _))
  | some kid =>
    exact reads_inputFormat (reads_format (reads_kid (reads_positionals _ hfile _ _ _ _)))

theorem read_commandLine (g : GeneralArguments) (a : ConvertArguments)
    (hfile : a.file ≠ some "--") :
    Arguments.read (commandLine g a) = .ok ⟨g, some (.convert a)⟩ := by
  rw [Arguments.read, readLeading_commandLine, ok_bind]
  dsimp only
  rw [Command.read, read_written a hfile]
  rfl

end CommandLine

end WebKeys
